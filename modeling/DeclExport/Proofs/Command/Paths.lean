/-
  DeclExport.Proofs.Command.Paths
  ────────────────────────────────
  **WHAT A PATH NAMES, AND WHAT WRITING TO IT LEAVES.**

  `Leads` is the walk that reading, writing and making directories have in common:
  every name but the last leads to a directory.  Making a directory touches no file and
  no stream.  Writing goes to what the path names and to nothing else: a file there, new
  or not, then holds the text, and the path still names it, since no directory on the way
  was in its place (`exists_leads_of_writeFrom`, `Leads.withFile`).
-/
import DeclExport.Command.Workspace

namespace DeclExport.Command

namespace Workspace

/-! ## §1. What a path names. -/

/-- What the pieces lead to from a directory, and where that is. -/
inductive Leads (w : Workspace) : Place → List String → Place → Node → Prop
  | last {place target : Place} {piece : String} {node : Node}
      (hstep : w.step place piece = .ok (target, node)) : Leads w place [piece] target node
  | through {place next target : Place} {piece : String} {pieces : List String} {node : Node}
      (hstep : w.step place piece = .ok (next, .directory))
      (hrest : Leads w next pieces target node) : Leads w place (piece :: pieces) target node

/-- What a path names, and where that is. -/
structure Names (w : Workspace) (path : String) (target : Place) (node : Node) : Prop where
  checked : checkPath path = .ok ()
  leads : w.Leads (pathOrigin path) (pathPieces path) target node

/-- A step leads to what is at the place that the name stands for. -/
theorem step_eq_ok_iff {w : Workspace} {place target : Place} {piece : String} {node : Node} :
    w.step place piece = .ok (target, node)
      ↔ piece.utf8ByteSize ≤ maxNameSize ∧ w.next place piece = target ∧ w.node target = node
        ∧ (node = .nothing → w.closed.any (target.isThrough ·) = false) := by
  rw [step]
  by_cases hsize : maxNameSize < piece.utf8ByteSize
  · have hlong : ¬ piece.utf8ByteSize ≤ maxNameSize := Nat.not_le_of_lt hsize
    simp [hsize, hlong]
  · rw [if_neg hsize]
    constructor
    · intro h
      split at h
      next hnode =>
        split at h
        next => cases h
        next hopen =>
          obtain ⟨rfl, rfl⟩ := Prod.mk.inj (Except.ok.inj h)
          exact ⟨Nat.le_of_not_lt hsize, rfl, hnode, fun _ => Bool.eq_false_iff.mpr hopen⟩
      next hnode =>
        obtain ⟨rfl, rfl⟩ := Prod.mk.inj (Except.ok.inj h)
        exact ⟨Nat.le_of_not_lt hsize, rfl, rfl, fun h => absurd h hnode⟩
    · rintro ⟨-, rfl, hnode, hopen⟩
      cases node <;> simp_all

theorem Leads.node_eq {w : Workspace} {place target : Place} {pieces : List String} {node : Node}
    (h : w.Leads place pieces target node) : w.node target = node := by
  induction h with
  | last hstep => exact (step_eq_ok_iff.mp hstep).2.2.1
  | through _ _ ih => exact ih

/-- **A file is read by a path that names it.** -/
theorem readFrom_of_leads {w : Workspace} {place target : Place} {pieces : List String}
    {bytes : ByteArray} (h : w.Leads place pieces target (.file bytes)) :
    w.readFrom place pieces = .ok bytes := by
  generalize hnode : Node.file bytes = node at h
  induction h with
  | last hstep => subst hnode; simp [readFrom, hstep]
  | through hstep _ ih => simp [readFrom, hstep, ih hnode]

theorem read_of_names {w : Workspace} {path : String} {target : Place} {bytes : ByteArray}
    (h : w.Names path target (.file bytes)) : w.read path = .ok bytes := by
  rw [read, h.checked]
  exact readFrom_of_leads h.leads

/-! ## §2. A file set. -/

theorem lookup_setFile (target : Place) (bytes : ByteArray) (other : Place)
    (files : List (Place × ByteArray)) :
    (setFile target bytes files).lookup other
      = if other = target then some bytes else files.lookup other := by
  fun_induction setFile target bytes files with
  | case1 => grind
  | case2 f files hplace => grind
  | case3 f files hplace ih => grind

theorem any_setFile (p : Place → Bool) (target : Place) (bytes : ByteArray)
    (files : List (Place × ByteArray)) :
    (setFile target bytes files).any (p ·.1) = (p target || files.any (p ·.1)) := by
  fun_induction setFile target bytes files with
  | case1 => rfl
  | case2 f files hplace => simp [hplace]
  | case3 f files hplace ih => simp [ih, Bool.or_left_comm]

theorem node_eq_directory_iff {w : Workspace} {place : Place} :
    w.node place = .directory
      ↔ w.files.lookup place = none ∧ w.devices.lookup place = none
        ∧ (place.names.isEmpty || w.isListed place) = true := by
  rw [node]
  cases w.files.lookup place <;> cases w.devices.lookup place <;> simp
  grind

/-- A workspace with the file at a place set. -/
def withFile (w : Workspace) (target : Place) (bytes : ByteArray) : Workspace :=
  { w with files := setFile target bytes w.files }

variable (w : Workspace) (target : Place) (bytes : ByteArray)

theorem node_withFile_self : (w.withFile target bytes).node target = .file bytes := by
  simp [node, withFile, lookup_setFile]

/-- A directory stays one, unless it is what the file is put in the place of. -/
theorem node_withFile_of_directory {place : Place} (hother : place ≠ target)
    (h : w.node place = .directory) : (w.withFile target bytes).node place = .directory := by
  obtain ⟨hfile, hdevice, hlisted⟩ := node_eq_directory_iff.mp h
  refine node_eq_directory_iff.mpr ⟨?_, hdevice, ?_⟩
  · simpa [withFile, lookup_setFile, hother] using hfile
  · simp only [isListed, withFile, any_setFile (·.isThrough place)] at hlisted ⊢
    grind

variable {w target bytes}

/-- **What a path leads to is still led to** once it has been made a file. -/
theorem Leads.withFile {place : Place} {pieces : List String} {node : Node}
    (h : w.Leads place pieces target node) (hnode : node ≠ .directory) :
    (w.withFile target bytes).Leads place pieces target (.file bytes) := by
  induction h with
  | last hstep =>
      obtain ⟨hsize, hnext, -, -⟩ := step_eq_ok_iff.mp hstep
      exact .last (step_eq_ok_iff.mpr ⟨hsize, hnext, node_withFile_self .., nofun⟩)
  | through hstep hrest ih =>
      obtain ⟨hsize, hnext, hdirectory, -⟩ := step_eq_ok_iff.mp hstep
      refine .through (step_eq_ok_iff.mpr ⟨hsize, hnext, ?_, nofun⟩) (ih hnode)
      refine node_withFile_of_directory w _ bytes ?_ hdirectory
      -- no directory on the way is where the file goes
      rintro rfl
      exact hnode (hrest.node_eq.symm.trans hdirectory)

/-! ## §3. Directories made. -/

/-- Making a directory touches no file and no stream. -/
theorem eq_of_makeFrom {w w' : Workspace} :
    ∀ {pieces : List String} {place : Place}, w.makeFrom place pieces = .ok w' →
      ∃ directories, w' = { w with directories }
  | [], _, h => nomatch h
  | p :: ps, place, h => by
      rw [makeFrom] at h
      split at h
      next => cases h
      next => exact eq_of_makeFrom h
      next =>
        split at h
        next => exact ⟨_, (Except.ok.inj h).symm⟩
        next => cases h
      next => cases h

theorem eq_of_makeDirectory {w w' : Workspace} {path : String}
    (h : w.makeDirectory path = .ok w') : ∃ directories, w' = { w with directories } := by
  rw [makeDirectory] at h
  split at h
  next => cases h
  next => exact eq_of_makeFrom h

/-! ## §4. Texts written. -/

/-- Write a text to what is at a place. -/
def writeNode (w : Workspace) (text : String) (target : Place) : Node → Except IoFault Workspace
  | .directory => .error .isDirectory
  | .device device => w.writeDevice text device
  | .file _ | .nothing => .ok (w.withFile target text.toUTF8)

/-- A text is written to what the pieces lead to. -/
theorem exists_leads_of_writeFrom {w w' : Workspace} {text : String} :
    ∀ {pieces : List String} {place : Place}, w.writeFrom text place pieces = .ok w' →
      ∃ target node, w.Leads place pieces target node ∧ w.writeNode text target node = .ok w'
  | [], _, h => nomatch h
  | p :: ps, place, h => by
      rw [writeFrom] at h
      split at h
      · cases h
      · cases hstep : w.step place p with
        | error fault => rw [hstep] at h; cases h
        | ok result =>
            obtain ⟨next, node⟩ := result
            rw [hstep] at h
            cases node with
            | directory =>
                obtain ⟨target, node, hleads, hwritten⟩ := exists_leads_of_writeFrom h
                exact ⟨target, node, .through hstep hleads, hwritten⟩
            | file _ | device _ | nothing =>
                cases ps with
                | nil => exact ⟨next, _, .last hstep, h⟩
                | cons p' ps => cases h

end Workspace

end DeclExport.Command
