/-
  DeclExport.Proofs.Source.Validity
  ────────────────────────────────
  **WHAT VALIDITY SAYS ABOUT A UNIT.**

  A fault is looked for in one pass after the other, with what was seen carried
  along.  Each pass finds nothing exactly if a plain statement holds of all that
  it goes over:

      firstRepeat? seen xs = none  ↔  xs distinct, none in seen
      fileFault? f = none          ↔  includer known, no cycle reached
      declFault? seen ds = none    ↔  ids distinct, none in seen, places known

  Together they say that a unit without a fault is *intact*
  (`fault?_eq_none_iff`), and no other unit is loaded.
-/
import Mathlib.Data.List.Nodup
import DeclExport.Proofs.Source.Includes
import DeclExport.Source.Load

namespace DeclExport.SourceUnit

/-! ## §1. Declarations without a fault. -/

/-- The search over declarations, read as a statement about all of them. -/
theorem declFault?_eq_none_iff (u : SourceUnit) :
    ∀ (ds : List Decl) (seen : List DeclId),
      u.declFault? seen ds = none ↔
        (ds.map (·.id)).Nodup ∧ (∀ d ∈ ds, d.id ∉ seen)
          ∧ ∀ d ∈ ds, u.placeFault? d = none
  | [], seen => by simp [declFault?]
  | d :: ds, seen => by
      by_cases hd : d.id ∈ seen
      · simp [declFault?, hd]
      · have ih := declFault?_eq_none_iff u ds (d.id :: seen)
        simp only [declFault?, hd, if_false, Option.orElse_eq_orElse,
          Option.orElse_eq_or, Option.or_eq_none_iff, ih, List.map_cons,
          List.nodup_cons, List.mem_map, List.mem_cons, not_or, not_exists,
          not_and, forall_eq_or_imp, not_false_eq_true, true_and]
        constructor
        · rintro ⟨hp, hnodup, hnew, hplaces⟩
          exact ⟨⟨fun x hx => (hnew x hx).1, hnodup⟩,
            fun x hx => (hnew x hx).2, hp, hplaces⟩
        · rintro ⟨⟨hne, hnodup⟩, hnew, hp, hplaces⟩
          exact ⟨hp, hnodup, fun x hx => ⟨hne x hx, hnew x hx⟩, hplaces⟩

/-- In a valid unit no two declarations share an identity. -/
theorem nodup_decl_ids_of_valid {u : SourceUnit} (h : u.fault? = none) :
    (u.decls.map (·.id)).Nodup := by
  have hdecls : u.declFault? [] u.decls = none := by
    simp only [fault?, Option.orElse_eq_orElse, Option.orElse_eq_or,
      Option.or_eq_none_iff] at h
    exact h.2.2
  exact ((declFault?_eq_none_iff u u.decls []).mp hdecls).1

/-! ## §2. Files without a fault. -/

/-- The search for a repetition, read as a statement about the whole list. -/
theorem firstRepeat?_eq_none_iff {α : Type} [DecidableEq α] :
    ∀ xs seen : List α, firstRepeat? seen xs = none ↔ xs.Nodup ∧ ∀ x ∈ xs, x ∉ seen
  | [], seen => by simp [firstRepeat?]
  | x :: xs, seen => by
      by_cases hx : x ∈ seen
      · simp [firstRepeat?, hx]
      · -- what was seen grows by `x`, which the rest must then avoid
        have ih := firstRepeat?_eq_none_iff xs (x :: seen)
        rw [firstRepeat?, if_neg hx, ih, List.nodup_cons]
        constructor
        · rintro ⟨hnodup, hnew⟩
          refine ⟨⟨fun hmem => hnew x hmem (by simp), hnodup⟩, fun y hy => ?_⟩
          rcases List.mem_cons.mp hy with rfl | hys
          · exact hx
          · exact fun hseen => hnew y hys (List.mem_cons_of_mem x hseen)
        · rintro ⟨⟨hfirst, hnodup⟩, hnew⟩
          refine ⟨hnodup, fun y hy hseen => ?_⟩
          rcases List.mem_cons.mp hseen with rfl | hold
          · exact hfirst hy
          · exact hnew y (List.mem_cons_of_mem x hy) hold

theorem hasFile_iff {u : SourceUnit} {id : FileId} :
    u.hasFile id = true ↔ ∃ f ∈ u.files, f.id = id := by
  simp [hasFile]

/-- A single file is passed over if its includer is known and the test for cycles
does not find it. -/
theorem fileFault?_eq_none_iff {u : SourceUnit} {f : SourceFile} :
    u.fileFault? f = none
      ↔ (∀ id, f.includedFrom = some id → ∃ g ∈ u.files, g.id = id)
        ∧ ¬ u.isCyclicFrom f.id = true := by
  cases hf : f.includedFrom with
  | none => simp [fileFault?, hf]
  | some id =>
      by_cases hid : u.hasFile id = true
      · have hknown := hasFile_iff.mp hid
        have hkept : (some id).filter (fun id => !u.hasFile id) = none := by simp [hid]
        rw [fileFault?, hf, hkept]
        simpa using fun _ => hknown
      · have hunknown : ¬ ∃ g ∈ u.files, g.id = id := fun h => hid (hasFile_iff.mpr h)
        have hkept : (some id).filter (fun id => !u.hasFile id) = some id := by simp [hid]
        rw [fileFault?, hf, hkept]
        simp [hunknown]

theorem placeFault?_eq_none_iff {u : SourceUnit} {d : Decl} :
    u.placeFault? d = none
      ↔ ∀ l, d.location = some l → ∃ f ∈ u.files, f.id = l.file := by
  cases hd : d.location with
  | none => simp [placeFault?, hd]
  | some l =>
      by_cases hl : u.hasFile l.file = true
      · have hknown := hasFile_iff.mp hl
        simpa [placeFault?, hd, hl] using hknown
      · have hunknown : ¬ ∃ f ∈ u.files, f.id = l.file := fun h => hl (hasFile_iff.mpr h)
        simp [placeFault?, hd, hl, hunknown]

/-! ## §3. THE INTEGRITY THEOREM. -/

/-- The references of a unit are in order. -/
structure Intact (u : SourceUnit) : Prop where
  files_distinct : (u.files.map (·.id)).Nodup
  includers_known :
    ∀ f ∈ u.files, ∀ id, f.includedFrom = some id → ∃ g ∈ u.files, g.id = id
  /-- Following the includers from a file on always comes to an end. -/
  acyclic : ∀ f ∈ u.files, ¬ u.ReachesCycle f
  decls_distinct : (u.decls.map (·.id)).Nodup
  places_known :
    ∀ d ∈ u.decls, ∀ l, d.location = some l → ∃ f ∈ u.files, f.id = l.file

/-- The search for a fault, read as a statement about the unit. -/
theorem fault?_eq_none_iff (u : SourceUnit) : u.fault? = none ↔ u.Intact := by
  have hfiles : firstRepeat? [] (u.files.map (·.id)) = none
      ↔ (u.files.map (·.id)).Nodup := by
    simp [firstRepeat?_eq_none_iff]
  simp only [fault?, Option.orElse_eq_orElse, Option.orElse_eq_or, Option.or_eq_none_iff,
    Option.map_eq_none_iff, hfiles, List.findSome?_eq_none_iff, fileFault?_eq_none_iff,
    declFault?_eq_none_iff, placeFault?_eq_none_iff]
  constructor
  · rintro ⟨hnodup, hincludes, hdecls, _, hplaces⟩
    -- distinct identities are what makes the test for cycles exact
    refine ⟨hnodup, fun f hf => (hincludes f hf).1, fun f hf hcycle => ?_, hdecls, hplaces⟩
    exact (hincludes f hf).2 ((isCyclicFrom_iff (file?_id hnodup hf)).mpr hcycle)
  · rintro ⟨hnodup, hincluders, hacyclic, hdecls, hplaces⟩
    refine ⟨hnodup, fun f hf => ⟨hincluders f hf, fun hcyclic => ?_⟩, hdecls, by simp, hplaces⟩
    exact hacyclic f hf ((isCyclicFrom_iff (file?_id hnodup hf)).mp hcyclic)

/-- Only units without a fault are loaded. -/
theorem fault?_eq_none_of_ofText {u : SourceUnit} {text : String}
    (h : ofText text = .ok u) : u.fault? = none := by
  rw [ofText] at h
  cases hdecode : decode text with
  | error e => simp [hdecode] at h
  | ok u' =>
      cases hfault : u'.fault? with
      | some fault => simp [hdecode, checked, hfault] at h
      | none =>
          simp only [hdecode, checked, hfault, Except.ok.injEq] at h
          rw [← h, hfault]

/-- **Validation is exact**: a unit has no fault if and only if it is intact, so no
other unit comes out of a text; and once the identities of files are distinct, the
bounded walk up the includers is too long exactly from the files that reach a
cycle, on it or off it. -/
theorem validation_exact (u : SourceUnit) :
    (u.fault? = none ↔ u.Intact)
      ∧ (∀ text, ofText text = .ok u → u.Intact)
      ∧ ((u.files.map (·.id)).Nodup →
          ∀ f ∈ u.files, u.isCyclicFrom f.id = true ↔ u.ReachesCycle f) := by
  refine ⟨fault?_eq_none_iff u, fun text htext => ?_, fun hnodup f hf => ?_⟩
  · exact (fault?_eq_none_iff u).mp (fault?_eq_none_of_ofText htext)
  · exact isCyclicFrom_iff (file?_id hnodup hf)

/-- The longest way up that comes to an end passes, and a file that leads into a cycle
is found although it is not on it. -/
theorem validation_exact_of_includers :
    Intact ⟨[⟨⟨0⟩, "a", .main, some ⟨1⟩⟩, ⟨⟨1⟩, "b", .user, some ⟨2⟩⟩,
        ⟨⟨2⟩, "c", .user, none⟩], []⟩
      ∧ ReachesCycle ⟨[⟨⟨0⟩, "a", .main, some ⟨1⟩⟩, ⟨⟨1⟩, "b", .user, some ⟨2⟩⟩,
        ⟨⟨2⟩, "c", .user, some ⟨1⟩⟩], []⟩ ⟨⟨0⟩, "a", .main, some ⟨1⟩⟩ := by
  constructor
  · exact (validation_exact _).1.mp (by decide)
  · exact ((validation_exact _).2.2 (by decide) _ (by simp)).mp (by decide)

end DeclExport.SourceUnit
