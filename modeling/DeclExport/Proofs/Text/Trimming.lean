/-
  DeclExport.Proofs.Text.Trimming
  ────────────────────────────────
  **CUTTING AND TRIMMING.**

  A text is cut at a separator and trimmed of blanks:

      pieces   the core library's `List.splitOn`, so its laws are those of `pieces`
      trim     leaves a tight text, without a blank at either end; of a tight text
               nothing is taken away, and of one between blanks only the blanks

  Neither writes a character: what holds of all characters of a text holds of those
  of its pieces, and of those that are left of it.
-/
import Mathlib.Data.List.DropRight
import DeclExport.Text.Basic

namespace DeclExport.Text

/-! ## §1. Pieces. -/

theorem pieces_eq_splitOn (sep : Char) (cs : List Char) : pieces sep cs = cs.splitOn sep := by
  induction cs with
  | nil => rfl
  | cons c cs ih =>
      obtain ⟨p, ps, hps⟩ := List.exists_cons_of_ne_nil (List.splitOn_ne_nil sep cs)
      rw [pieces, List.splitOn_cons_eq_if_modifyHead, ih, hps]
      by_cases hc : c = sep <;> simp [hc]

/-- No piece holds a separator. -/
theorem not_mem_of_mem_pieces {sep : Char} {cs p : List Char} (h : p ∈ pieces sep cs) :
    sep ∉ p := by
  induction cs generalizing p with
  | nil => simp_all [pieces]
  | cons c cs ih =>
      by_cases hc : c = sep
      · rw [pieces, if_pos hc] at h
        rcases List.mem_cons.mp h with rfl | hp
        · simp
        · exact ih hp
      · obtain ⟨q, qs, hcs⟩ : ∃ q qs, pieces sep cs = q :: qs := by
          rw [pieces_eq_splitOn]
          exact List.exists_cons_of_ne_nil (List.splitOn_ne_nil sep cs)
        rw [hcs] at ih
        simp only [pieces, if_neg hc, hcs] at h
        rcases List.mem_cons.mp h with rfl | hp
        · simp [Ne.symm hc, ih (List.mem_cons_self ..)]
        · exact ih (List.mem_cons_of_mem _ hp)

/-! ## §2. Tight texts. -/

/-- No blank stands at the beginning or at the end. -/
def IsTight (cs : List Char) : Prop :=
  (∀ c ∈ cs.head?, isBlank c = false) ∧ ∀ c ∈ cs.getLast?, isBlank c = false

-- the ends are looked at, not every character there is
instance (cs : List Char) : Decidable (IsTight cs) :=
  @instDecidableAnd _ _ (Option.decidableForallMem cs.head?) (Option.decidableForallMem cs.getLast?)

theorem isTight_cons_append {c : Char} (hc : isBlank c = false) (xs : List Char)
    {ys : List Char} (hne : ys ≠ []) (hys : ∀ d ∈ ys.getLast?, isBlank d = false) :
    IsTight (c :: (xs ++ ys)) := by
  obtain ⟨d, hd⟩ := Option.isSome_iff_exists.mp (List.getLast?_isSome.mpr hne)
  have hlast : (c :: (xs ++ ys)).getLast? = some d := by
    rw [← List.cons_append, List.getLast?_append, hd, Option.some_or]
  constructor
  · simp [hc]
  · simpa [hlast] using hys d hd

theorem trimEnd_eq_rdropWhile (cs : List Char) : trimEnd cs = cs.rdropWhile isBlank := rfl

theorem dropWhile_isBlank_of_head? {cs : List Char} (h : ∀ c ∈ cs.head?, isBlank c = false) :
    cs.dropWhile isBlank = cs := by
  cases cs with
  | nil => rfl
  | cons c cs =>
      have hc : ¬ isBlank c = true := by simp [h c rfl]
      rw [List.dropWhile_cons_of_neg hc]

theorem trim_eq_self {cs : List Char} (h : IsTight cs) : trim cs = cs := by
  rw [trim, dropWhile_isBlank_of_head? h.1, trimEnd_eq_rdropWhile, List.rdropWhile_eq_self_iff]
  intro hne
  simp [h.2 _ (List.getLast?_eq_getLast_of_ne_nil hne)]

theorem trim_blank_cons {c : Char} (hc : isBlank c = true) (cs : List Char) :
    trim (c :: cs) = trim cs := by
  rw [trim, List.dropWhile_cons_of_pos hc, trim]

theorem trim_append_blank {c : Char} (hc : isBlank c = true) (cs : List Char) :
    trim (cs ++ [c]) = trim cs := by
  rw [trim, trim, List.dropWhile_append]
  by_cases hcs : (cs.dropWhile isBlank).isEmpty = true
  · have hnil : cs.dropWhile isBlank = [] := by simpa using hcs
    simp [hnil, List.dropWhile_cons_of_pos hc, trimEnd_eq_rdropWhile]
  · rw [if_neg hcs]
    exact List.rdropWhile_concat_pos _ _ _ hc

theorem isTight_trim (cs : List Char) : IsTight (trim cs) := by
  rw [trim, trimEnd_eq_rdropWhile]
  constructor
  · intro c hc
    -- the end is trimmed off a text that begins without a blank
    have hbegin := List.head?_dropWhile_not isBlank cs
    have hhead : (cs.dropWhile isBlank).head? = some c := by
      obtain ⟨rest, hrest⟩ := List.rdropWhile_prefix isBlank (cs.dropWhile isBlank)
      rw [← hrest, List.head?_append, Option.mem_def.mp hc]
      rfl
    rw [hhead] at hbegin
    exact hbegin
  · intro c hc
    obtain ⟨hne, hlast⟩ := List.mem_getLast?_eq_getLast hc
    have hend := List.rdropWhile_last_not isBlank (cs.dropWhile isBlank) hne
    rw [hlast]
    simpa using hend

theorem sublist_trim (cs : List Char) : (trim cs).Sublist cs := by
  rw [trim, trimEnd_eq_rdropWhile]
  exact (List.rdropWhile_prefix _ _).sublist.trans (List.dropWhile_sublist _)

end DeclExport.Text
