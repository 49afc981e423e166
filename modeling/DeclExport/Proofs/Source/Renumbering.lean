/-
  DeclExport.Proofs.Source.Renumbering
  ────────────────────────────────
  **UNITS UNDER OTHER NUMBERS.**

  A renumbering gives the declarations and files of a unit new identities, different
  ones to different ones, and may list the files in another order.  Nothing that is
  asked of a unit sees it: files are found under their new identities
  (`file?_fileId`), so the include chain of the new unit is that of the old one, file
  by file (`includeChain_fileId`), and integrity and system regions are decided on
  include chains and on whether identities are equal.
-/
import DeclExport.Proofs.Source.Validity

namespace DeclExport

/-! ## §1. New numbers. -/

/-- A file under new numbers. -/
def SourceFile.renumber (number : FileId → FileId) (f : SourceFile) : SourceFile :=
  { f with id := number f.id, includedFrom := f.includedFrom.map number }

/-- A location in a file under new numbers. -/
def Location.renumber (number : FileId → FileId) (l : Location) : Location :=
  { l with file := number l.file }

/-- A declaration under new numbers. -/
def Decl.renumber (declNumber : DeclId → DeclId) (fileNumber : FileId → FileId) (d : Decl) :
    Decl :=
  { d with id := declNumber d.id, location := d.location.map (·.renumber fileNumber) }

/-- New identities are as distinct as the old ones, if the numbers are kept apart. -/
theorem nodup_ids_of_inj {α ι : Type} {xs : List α} {idOf : α → ι} {move : α → α}
    {number : ι → ι} (hmove : ∀ x, idOf (move x) = number (idOf x))
    (hinj : ∀ a ∈ xs.map idOf, ∀ b ∈ xs.map idOf, number a = number b → a = b)
    (hnodup : (xs.map idOf).Nodup) : ((xs.map move).map idOf).Nodup := by
  have hids : (xs.map move).map idOf = (xs.map idOf).map number := by
    rw [List.map_map, List.map_map]
    exact List.map_congr_left fun x _ => hmove x
  rw [hids]
  exact hnodup.map_on hinj

namespace SourceUnit

/-- New numbers for a unit, and a new order of its files.  The numbers keep apart the
identities that are in use. -/
structure Renumbering (u : SourceUnit) where
  declId : DeclId → DeclId
  fileId : FileId → FileId
  files : List SourceFile
  declId_inj : ∀ a ∈ u.decls.map (·.id), ∀ b ∈ u.decls.map (·.id), declId a = declId b → a = b
  fileId_inj : ∀ a ∈ u.files.map (·.id), ∀ b ∈ u.files.map (·.id), fileId a = fileId b → a = b
  files_perm : files.Perm (u.files.map (·.renumber fileId))

namespace Renumbering

variable {u : SourceUnit} (r : u.Renumbering)

/-- The unit under the new numbers. -/
def apply : SourceUnit := ⟨r.files, u.decls.map (·.renumber r.declId r.fileId)⟩

theorem mem_files_iff {f' : SourceFile} :
    f' ∈ r.apply.files ↔ ∃ f ∈ u.files, f.renumber r.fileId = f' := by
  show f' ∈ r.files ↔ _
  rw [r.files_perm.mem_iff, List.mem_map]

theorem length_files : r.apply.files.length = u.files.length := by
  show r.files.length = _
  rw [r.files_perm.length_eq, List.length_map]

theorem nodup_file_ids (hnodup : (u.files.map (·.id)).Nodup) :
    (r.apply.files.map (·.id)).Nodup := by
  show (r.files.map (·.id)).Nodup
  rw [(r.files_perm.map _).nodup_iff]
  exact nodup_ids_of_inj (fun _ => rfl) r.fileId_inj hnodup

theorem nodup_decl_ids (hnodup : (u.decls.map (·.id)).Nodup) :
    (r.apply.decls.map (·.id)).Nodup :=
  nodup_ids_of_inj (fun _ => rfl) r.declId_inj hnodup

/-! ## §2. Files and include chains. -/

/-- A file is found under its new number. -/
theorem file?_fileId (hnodup : (u.files.map (·.id)).Nodup) {f : SourceFile} (hf : f ∈ u.files) :
    r.apply.file? (r.fileId f.id) = some (f.renumber r.fileId) :=
  file?_id (r.nodup_file_ids hnodup) (r.mem_files_iff.mpr ⟨f, hf, rfl⟩)

/-- **The include chain under new numbers** is the old one, file by file. -/
theorem includeChain_fileId (hvalid : u.Intact) :
    ∀ (k : Nat) {f : SourceFile}, f ∈ u.files →
      r.apply.includeChain k (r.fileId f.id)
        = (u.includeChain k f.id).map (·.renumber r.fileId)
  | 0, _, _ => rfl
  | k + 1, f, hf => by
      rw [includeChain_succ (r.file?_fileId hvalid.files_distinct hf),
        includeChain_succ (file?_id hvalid.files_distinct hf), List.map_cons]
      cases hparent : f.includedFrom with
      | none => simp [SourceFile.renumber, hparent]
      | some parent =>
          -- the includer is a file of the unit, so the walk goes on from it
          obtain ⟨g, hg, rfl⟩ := hvalid.includers_known f hf parent hparent
          have hrest := includeChain_fileId hvalid k hg
          simp [SourceFile.renumber, hparent, hrest]

theorem isCyclicFrom_fileId (hvalid : u.Intact) {f : SourceFile} (hf : f ∈ u.files) :
    r.apply.isCyclicFrom (r.fileId f.id) = u.isCyclicFrom f.id := by
  rw [isCyclicFrom, isCyclicFrom, r.length_files, r.includeChain_fileId hvalid _ hf,
    List.length_map]

/-- A place is in a system region under new numbers if it is. -/
theorem isSystemLocation_renumber (hvalid : u.Intact) {l : Location}
    (hl : ∃ f ∈ u.files, f.id = l.file) (roots : List String) :
    r.apply.isSystemLocation (l.renumber r.fileId) roots = u.isSystemLocation l roots := by
  obtain ⟨f, hf, hfile⟩ := hl
  have hchain := r.includeChain_fileId hvalid u.files.length hf
  rw [hfile] at hchain
  rw [isSystemLocation, isSystemLocation, r.length_files]
  show (r.apply.includeChain _ (r.fileId l.file)).any _ = _
  rw [hchain, List.any_map]
  rfl

/-! ## §3. Integrity. -/

/-- **A unit is as intact under new numbers as it is.** -/
theorem intact (hvalid : u.Intact) : r.apply.Intact where
  files_distinct := r.nodup_file_ids hvalid.files_distinct
  includers_known := by
    intro f' hf' id hid
    obtain ⟨f, hf, rfl⟩ := r.mem_files_iff.mp hf'
    obtain ⟨parent, hparent, rfl⟩ := Option.map_eq_some_iff.mp hid
    obtain ⟨g, hg, rfl⟩ := hvalid.includers_known f hf parent hparent
    exact ⟨_, r.mem_files_iff.mpr ⟨g, hg, rfl⟩, rfl⟩
  acyclic := by
    intro f' hf' hcycle
    obtain ⟨f, hf, rfl⟩ := r.mem_files_iff.mp hf'
    -- both units walk as far before they give up
    have hcyclic := (isCyclicFrom_iff (r.file?_fileId hvalid.files_distinct hf)).mpr hcycle
    rw [r.isCyclicFrom_fileId hvalid hf] at hcyclic
    exact hvalid.acyclic f hf ((isCyclicFrom_iff (file?_id hvalid.files_distinct hf)).mp hcyclic)
  decls_distinct := r.nodup_decl_ids hvalid.decls_distinct
  places_known := by
    intro d' hd' l' hl'
    obtain ⟨d, hd, rfl⟩ := List.mem_map.mp hd'
    obtain ⟨l, hl, rfl⟩ := Option.map_eq_some_iff.mp hl'
    obtain ⟨f, hf, hfile⟩ := hvalid.places_known d hd l hl
    exact ⟨_, r.mem_files_iff.mpr ⟨f, hf, rfl⟩, congrArg r.fileId hfile⟩

theorem fault?_eq_none (hvalid : u.fault? = none) : r.apply.fault? = none :=
  (fault?_eq_none_iff _).mpr (r.intact ((fault?_eq_none_iff u).mp hvalid))

end Renumbering

end SourceUnit

end DeclExport
