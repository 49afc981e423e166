/-
  DeclExport.Proofs.Export.Building
  ────────────────────────────────
  **WHAT A BUILD COMES TO.**

  A build is a fold of insertions over the included declarations; the log
  apart, nothing else of the unit enters.  One invariant carries it: after the
  declarations `before`, the module holds the first entry of every name that
  they render to (`insertAll_append`), so an insertion meets the first owner of
  its name.  A declaration is *stopped* after `before` if it does not render,
  or renders to a name whose first owner has another identity:

      result = ok m     ↔  no included declaration is stopped
      result = error e  ↔  e stops the first one that is
-/
import DeclExport.Export.Build
import DeclExport.Proofs.Source.Validity

namespace DeclExport

/-! ## §1. The first entry of every name. -/

namespace Entry

/-- The entries without those whose name an earlier one has. -/
def firsts : List Entry → List Entry
  | [] => []
  | e :: es => e :: (firsts es).filter fun f => f.name ≠ e.name

theorem sublist_firsts (es : List Entry) : (firsts es).Sublist es := by
  induction es with
  | nil => exact .slnil
  | cons e es ih => exact (List.filter_sublist.trans ih).cons_cons e

/-- Looking a name up, later entries of the name do not count. -/
theorem find?_firsts (n : String) (es : List Entry) :
    (firsts es).find? (fun e => e.name = n) = es.find? fun e => e.name = n := by
  induction es with
  | nil => rfl
  | cons e es ih =>
      by_cases he : e.name = n
      · simp [firsts, he]
      · have hkeep : (fun f : Entry => decide (f.name ≠ e.name ∧ f.name = n))
            = fun f => decide (f.name = n) := by
          funext f
          rw [decide_eq_decide]
          exact ⟨fun h => h.2, fun h => ⟨fun hfe => he (hfe ▸ h), h⟩⟩
        rw [firsts, List.find?_cons_of_neg (by simpa using he),
          List.find?_cons_of_neg (by simpa using he), List.find?_filter]
        simp only [decide_eq_true_eq, hkeep]
        exact ih

/-- One more entry is kept if its name is new. -/
theorem firsts_append_singleton (es : List Entry) (e : Entry) :
    firsts (es ++ [e])
      = if es.any (fun f => f.name = e.name) then firsts es else firsts es ++ [e] := by
  induction es with
  | nil => rfl
  | cons x es ih =>
      rw [List.cons_append, firsts, ih]
      by_cases hx : x.name = e.name
      · by_cases hes : es.any (fun f => f.name = e.name) = true
        · simp [firsts, hes]
        · simp [firsts, hes, hx]
      · by_cases hes : es.any (fun f => f.name = e.name) = true
        · simp [firsts, hes]
        · have hne : e.name ≠ x.name := fun h => hx h.symm
          simp [firsts, hes, hx, hne, List.filter_append]

/-- Where every name is used once, every entry is a first. -/
theorem firsts_eq_self {es : List Entry}
    (h : es.Pairwise fun e f => e.name ≠ f.name) : firsts es = es := by
  induction es with
  | nil => rfl
  | cons e es ih =>
      rw [List.pairwise_cons] at h
      rw [firsts, ih h.2, List.filter_eq_self.mpr]
      intro f hf
      simpa using (h.1 f hf).symm

end Entry

namespace Module

/-! ## §2. The build without its log. -/

section Selection

variable (filter : Filter) (cx : Context) (render : Renderer)

/-- The declarations that the filter includes, in source order. -/
def included : List Decl :=
  cx.unit.decls.filter fun d => (filter.verdict cx d).isIncluded

/-- What a declaration is rendered to under the verdict on it. -/
def rendering (d : Decl) : Except Failure Rendered :=
  render d (filter.verdict cx d) cx.annotations

end Selection

/-- Insert what the declarations are rendered to, up to the first failure. -/
def insertAll (rendering : Decl → Except Failure Rendered) (m : Module) :
    List Decl → Except Failure Module
  | [] => .ok m
  | d :: ds =>
      match rendering d with
      | .error e => .error e
      | .ok r =>
          match m.insert ⟨r.name, r.term, d.id⟩ with
          | .error e => .error e
          | .ok m => m.insertAll rendering ds

theorem extend_result (filter : Filter) (cx : Context) (render : Renderer) :
    ∀ (ds : List Decl) (m : Module),
      (extend filter cx render m ds).2
        = m.insertAll (rendering filter cx render)
            (ds.filter fun d => (filter.verdict cx d).isIncluded)
  | [], _ => rfl
  | d :: ds, m => by
      by_cases hd : (filter.verdict cx d).isIncluded = true
      · simp only [extend, List.filter_cons, hd, if_true, insertAll, rendering]
        cases render d (filter.verdict cx d) cx.annotations with
        | error e => rfl
        | ok r =>
            dsimp only
            cases m.insert ⟨r.name, r.term, d.id⟩ with
            | error e => rfl
            | ok m' => exact extend_result filter cx render ds m'
      · -- a declaration that is not included adds to the log alone
        simp only [extend, List.filter_cons, hd, Bool.false_eq_true, if_false]
        exact extend_result filter cx render ds m

/-- The log apart, a build inserts what the included declarations render to. -/
theorem build_result (filter : Filter) (cx : Context) (render : Renderer) :
    (build filter cx render).2
      = empty.insertAll (rendering filter cx render) (included filter cx) :=
  extend_result filter cx render cx.unit.decls empty

/-! ## §3. Owners and obstacles. -/

section Obstacles

variable (rendering : Decl → Except Failure Rendered)

/-- The entry that a declaration is rendered to. -/
def entryOf (d : Decl) : Option Entry :=
  match rendering d with
  | .error _ => none
  | .ok r => some ⟨r.name, r.term, d.id⟩

/-- Whether a declaration is rendered to the name. -/
def isNamed (n : String) (d : Decl) : Bool :=
  match rendering d with
  | .error _ => false
  | .ok r => r.name = n

/-- The owner of a name among declarations: the first that renders to it. -/
def owner? (before : List Decl) (n : String) : Option Decl :=
  before.find? (isNamed rendering n)

/-- What stops a declaration after those in `before`: it does not render, or its
name has an owner with another identity. -/
inductive Obstacle (before : List Decl) (d : Decl) : Failure → Prop where
  | unrendered {e : Failure} (failed : rendering d = .error e) : Obstacle before d e
  | taken {r : Rendered} {owner : Decl} (rendered : rendering d = .ok r)
      (owned : owner? rendering before r.name = some owner) (other : owner.id ≠ d.id) :
      Obstacle before d (.collision r.name owner.id d.id)

/-- No declaration is stopped after `before` and those in front of it. -/
def Unobstructed (before ds : List Decl) : Prop :=
  ∀ xs d ys, ds = xs ++ d :: ys → ∀ e, ¬ Obstacle rendering (before ++ xs) d e

theorem unobstructed_nil (before : List Decl) : Unobstructed rendering before [] := by
  intro xs d ys h
  simp at h

theorem unobstructed_cons (before : List Decl) (d : Decl) (ds : List Decl) :
    Unobstructed rendering before (d :: ds)
      ↔ (∀ e, ¬ Obstacle rendering before d e)
        ∧ Unobstructed rendering (before ++ [d]) ds := by
  constructor
  · intro h
    constructor
    · have := h [] d ds rfl
      simpa using this
    · intro xs x ys hds
      have := h (d :: xs) x ys (by rw [hds, List.cons_append])
      simpa using this
  · rintro ⟨hd, hds⟩ xs x ys hsplit
    cases xs with
    | nil =>
        obtain ⟨rfl, rfl⟩ := List.cons.inj hsplit
        simpa using hd
    | cons x' xs =>
        obtain ⟨rfl, rfl⟩ := List.cons.inj hsplit
        have := hds xs x ys rfl
        simpa using this

end Obstacles

/-! ## §4. The invariant of the fold. -/

section Invariant

variable {rendering : Decl → Except Failure Rendered}

/-- The module that the declarations leave behind when none is stopped. -/
def ofDecls (rendering : Decl → Except Failure Rendered) (before : List Decl) : Module :=
  ⟨Entry.firsts (before.filterMap (entryOf rendering))⟩

/-- The entry of a name is that of the owner of the name. -/
theorem get?_ofDecls (before : List Decl) (n : String) :
    (ofDecls rendering before).get? n
      = (owner? rendering before n).bind (entryOf rendering) := by
  show (Entry.firsts _).find? (fun e => e.name = n) = _
  rw [Entry.find?_firsts]
  induction before with
  | nil => rfl
  | cons d ds ih =>
      cases hd : rendering d with
      | error e => simpa [entryOf, owner?, isNamed, hd] using ih
      | ok r =>
          by_cases hr : r.name = n
          · simp [entryOf, owner?, isNamed, hd, hr]
          · simpa [entryOf, owner?, isNamed, hd, hr] using ih

theorem isNamed_of_owner? {before : List Decl} {n : String} {owner : Decl}
    (h : owner? rendering before n = some owner) :
    ∃ r, rendering owner = .ok r ∧ r.name = n := by
  have hnamed := List.find?_some h
  cases howner : rendering owner with
  | error e => simp [isNamed, howner] at hnamed
  | ok r => exact ⟨r, rfl, by simpa [isNamed, howner] using hnamed⟩

theorem mem_of_owner? {before : List Decl} {n : String} {owner : Decl}
    (h : owner? rendering before n = some owner) : owner ∈ before :=
  List.mem_of_find?_eq_some h

/-- Insertion where nobody owns the name. -/
theorem insert_ofDecls_of_free {before : List Decl} {d : Decl} {r : Rendered}
    (hr : rendering d = .ok r) (hfree : owner? rendering before r.name = none) :
    (ofDecls rendering before).insert ⟨r.name, r.term, d.id⟩
      = .ok (ofDecls rendering (before ++ [d])) := by
  have hget : (ofDecls rendering before).get? r.name = none := by
    rw [get?_ofDecls, hfree]
    rfl
  -- a name without an entry is the name of nothing rendered so far
  have hnew : (before.filterMap (entryOf rendering)).any
      (fun f => f.name = r.name) = false := by
    have hnone : (Entry.firsts (before.filterMap (entryOf rendering))).find?
        (fun e => e.name = r.name) = none := hget
    rw [Entry.find?_firsts, List.find?_eq_none] at hnone
    rw [List.any_eq_false]
    exact hnone
  simp only [insert, hget]
  simp [ofDecls, List.filterMap_append, entryOf, hr, Entry.firsts_append_singleton, hnew]

/-- Insertion where a declaration owns the name. -/
theorem insert_ofDecls_of_owned {before : List Decl} {d owner : Decl} {r : Rendered}
    (hr : rendering d = .ok r) (howner : owner? rendering before r.name = some owner) :
    (ofDecls rendering before).insert ⟨r.name, r.term, d.id⟩
      = if owner.id = d.id then .ok (ofDecls rendering (before ++ [d]))
        else .error (.collision r.name owner.id d.id) := by
  obtain ⟨r', hr', hname⟩ := isNamed_of_owner? howner
  have hget : (ofDecls rendering before).get? r.name
      = some ⟨r'.name, r'.term, owner.id⟩ := by
    rw [get?_ofDecls, howner]
    simp [entryOf, hr']
  have hold : (before.filterMap (entryOf rendering)).any
      (fun f => f.name = r.name) = true := by
    rw [List.any_eq_true]
    refine ⟨⟨r'.name, r'.term, owner.id⟩, ?_, by simpa using hname⟩
    exact List.mem_filterMap.mpr ⟨owner, mem_of_owner? howner, by simp [entryOf, hr']⟩
  have hsame : ofDecls rendering (before ++ [d]) = ofDecls rendering before := by
    simp [ofDecls, List.filterMap_append, entryOf, hr, Entry.firsts_append_singleton, hold]
  simp only [insert, hget]
  rw [hsame]

/-- **A stopped declaration ends the fold** with what stops it. -/
theorem insertAll_cons_of_obstacle {before : List Decl} {d : Decl} {e : Failure}
    (h : Obstacle rendering before d e) (ds : List Decl) :
    (ofDecls rendering before).insertAll rendering (d :: ds) = .error e := by
  cases h with
  | unrendered failed => simp only [insertAll, failed]
  | taken rendered owned other =>
      have hinsert := insert_ofDecls_of_owned rendered owned
      rw [if_neg other] at hinsert
      simp only [insertAll, rendered, hinsert]

/-- **A declaration that is not stopped** is taken in. -/
theorem insertAll_cons_of_free {before : List Decl} {d : Decl}
    (h : ∀ e, ¬ Obstacle rendering before d e) (ds : List Decl) :
    (ofDecls rendering before).insertAll rendering (d :: ds)
      = (ofDecls rendering (before ++ [d])).insertAll rendering ds := by
  cases hr : rendering d with
  | error e => exact absurd (.unrendered hr) (h e)
  | ok r =>
      cases howner : owner? rendering before r.name with
      | none => simp only [insertAll, hr, insert_ofDecls_of_free hr howner]
      | some owner =>
          have hid : owner.id = d.id := by
            by_contra hid
            exact h _ (.taken hr howner hid)
          have hinsert := insert_ofDecls_of_owned hr howner
          rw [if_pos hid] at hinsert
          simp only [insertAll, hr, hinsert]

/-! ## §5. Whole folds. -/

/-- Declarations that are not stopped are taken in one after the other. -/
theorem insertAll_append (xs ys : List Decl) :
    ∀ before, Unobstructed rendering before xs →
      (ofDecls rendering before).insertAll rendering (xs ++ ys)
        = (ofDecls rendering (before ++ xs)).insertAll rendering ys := by
  induction xs with
  | nil => intro before _; rw [List.append_nil, List.nil_append]
  | cons d xs ih =>
      intro before h
      obtain ⟨hd, hxs⟩ := (unobstructed_cons rendering before d xs).mp h
      rw [List.cons_append, insertAll_cons_of_free hd, ih _ hxs,
        List.append_assoc, List.singleton_append]

/-- Where a declaration is stopped, one is stopped first. -/
theorem exists_first_obstacle (ds : List Decl) :
    ∀ before, ¬ Unobstructed rendering before ds →
      ∃ xs d ys e, ds = xs ++ d :: ys ∧ Unobstructed rendering before xs
        ∧ Obstacle rendering (before ++ xs) d e := by
  induction ds with
  | nil => intro before h; exact absurd (unobstructed_nil rendering before) h
  | cons d ds ih =>
      intro before h
      -- the first one is `d`, or the first one behind it
      by_cases hd : ∃ e, Obstacle rendering before d e
      · obtain ⟨e, he⟩ := hd
        exact ⟨[], d, ds, e, rfl, unobstructed_nil rendering before, by simpa using he⟩
      · have hfree : ∀ e, ¬ Obstacle rendering before d e := fun e he => hd ⟨e, he⟩
        have hds : ¬ Unobstructed rendering (before ++ [d]) ds := fun hds =>
          h ((unobstructed_cons rendering before d ds).mpr ⟨hfree, hds⟩)
        obtain ⟨xs, x, ys, e, hsplit, hxs, hx⟩ := ih _ hds
        refine ⟨d :: xs, x, ys, e, by rw [hsplit, List.cons_append], ?_, by simpa using hx⟩
        exact (unobstructed_cons rendering before d xs).mpr ⟨hfree, hxs⟩

theorem insertAll_eq_ok_iff (ds : List Decl) (m : Module) :
    empty.insertAll rendering ds = .ok m
      ↔ Unobstructed rendering [] ds ∧ m = ofDecls rendering ds := by
  show (ofDecls rendering []).insertAll rendering ds = .ok m ↔ _
  by_cases h : Unobstructed rendering [] ds
  · have hrun := insertAll_append ds [] [] h
    rw [List.append_nil, List.nil_append] at hrun
    rw [hrun]
    simp [insertAll, h, eq_comm]
  · -- the fold gets to the first obstacle and ends with it
    obtain ⟨xs, d, ys, e, rfl, hxs, hd⟩ := exists_first_obstacle ds [] h
    rw [insertAll_append xs (d :: ys) [] hxs, insertAll_cons_of_obstacle hd]
    simp [h]

theorem insertAll_eq_error_iff (ds : List Decl) (e : Failure) :
    empty.insertAll rendering ds = .error e
      ↔ ∃ xs d ys, ds = xs ++ d :: ys ∧ Unobstructed rendering [] xs
          ∧ Obstacle rendering xs d e := by
  show (ofDecls rendering []).insertAll rendering ds = .error e ↔ _
  constructor
  · intro hrun
    have h : ¬ Unobstructed rendering [] ds := fun h => by
      have hok := (insertAll_eq_ok_iff ds (ofDecls rendering ds)).mpr ⟨h, rfl⟩
      exact absurd (hrun.symm.trans hok) (by simp)
    obtain ⟨xs, d, ys, e', hsplit, hxs, hd⟩ := exists_first_obstacle ds [] h
    refine ⟨xs, d, ys, hsplit, hxs, ?_⟩
    rw [hsplit, insertAll_append xs (d :: ys) [] hxs, insertAll_cons_of_obstacle hd] at hrun
    cases hrun
    exact hd
  · rintro ⟨xs, d, ys, rfl, hxs, hd⟩
    rw [insertAll_append xs (d :: ys) [] hxs, List.nil_append]
    exact insertAll_cons_of_obstacle hd ys

/-! ## §6. Names and identities. -/

/-- Whoever renders to a name has the identity of its owner. -/
theorem id_eq_owner_id {ds : List Decl} (h : Unobstructed rendering [] ds)
    {d owner : Decl} {r : Rendered} (hd : d ∈ ds) (hr : rendering d = .ok r)
    (howner : owner? rendering ds r.name = some owner) : owner.id = d.id := by
  obtain ⟨xs, ys, rfl⟩ := List.append_of_mem hd
  have hfree : ∀ e, ¬ Obstacle rendering xs d e := h xs d ys rfl
  cases hxs : owner? rendering xs r.name with
  | none =>
      -- nobody in front of `d` has the name, so `d` is the owner
      have hnamed : isNamed rendering r.name d = true := by simp [isNamed, hr]
      have hd' : owner? rendering (xs ++ d :: ys) r.name = some d := by
        rw [owner?, List.find?_append, show xs.find? _ = none from hxs,
          List.find?_cons_of_pos hnamed]
        rfl
      rw [hd'] at howner
      cases howner
      rfl
  | some o =>
      have ho : owner? rendering (xs ++ d :: ys) r.name = some o := by
        rw [owner?, List.find?_append, show xs.find? _ = some o from hxs]
        rfl
      rw [ho] at howner
      cases howner
      by_contra hid
      exact hfree _ (.taken hr hxs hid)

/-- **No declaration is stopped** exactly if all render, and one name never has
two identities. -/
theorem unobstructed_iff (ds : List Decl) :
    Unobstructed rendering [] ds
      ↔ (∀ d ∈ ds, ∃ r, rendering d = .ok r)
        ∧ ∀ d ∈ ds, ∀ d' ∈ ds, ∀ r r', rendering d = .ok r → rendering d' = .ok r' →
            r.name = r'.name → d.id = d'.id := by
  constructor
  · intro h
    constructor
    · intro d hd
      obtain ⟨xs, ys, rfl⟩ := List.append_of_mem hd
      cases hr : rendering d with
      | error e => exact absurd (.unrendered hr) (h xs d ys rfl e)
      | ok r => exact ⟨r, rfl⟩
    · intro d hd d' hd' r r' hr hr' hname
      -- both have the identity of the owner of the name
      have hnamed : isNamed rendering r.name d = true := by simp [isNamed, hr]
      have hsome : (owner? rendering ds r.name).isSome = true :=
        List.find?_isSome.mpr ⟨d, hd, hnamed⟩
      obtain ⟨owner, howner⟩ := Option.isSome_iff_exists.mp hsome
      rw [← id_eq_owner_id h hd hr howner, id_eq_owner_id h hd' hr' (hname ▸ howner)]
  · rintro ⟨hall, hids⟩ xs d ys rfl e he
    cases he with
    | unrendered failed =>
        obtain ⟨r, hr⟩ := hall d (by simp)
        simp [hr] at failed
    | @taken r owner rendered owned other =>
        obtain ⟨r', hr', hname⟩ := isNamed_of_owner? owned
        have hmem : owner ∈ xs := mem_of_owner? owned
        exact other (hids owner (by simp [hmem]) d (by simp) r' r hr' rendered hname)

/-- Where identities are unique, names are, and every entry is kept. -/
theorem entries_ofDecls_of_nodup {ds : List Decl} (hnodup : (ds.map (·.id)).Nodup)
    (h : Unobstructed rendering [] ds) :
    (ofDecls rendering ds).entries = ds.filterMap (entryOf rendering) := by
  have hids := ((unobstructed_iff ds).mp h).2
  apply Entry.firsts_eq_self
  rw [List.pairwise_filterMap]
  refine List.Pairwise.imp_of_mem ?_ (List.pairwise_map.mp hnodup)
  intro d d' hd hd' hne e he e' he' hname
  cases hr : rendering d with
  | error _ => simp [entryOf, hr] at he
  | ok r =>
      cases hr' : rendering d' with
      | error _ => simp [entryOf, hr'] at he'
      | ok r' =>
          simp only [entryOf, hr, Option.some.injEq] at he
          simp only [entryOf, hr', Option.some.injEq] at he'
          subst he he'
          exact hne (hids d hd d' hd' r r' hr hr' hname)

/-- Where all declarations render, each has an entry. -/
theorem length_filterMap_entryOf {ds : List Decl}
    (h : ∀ d ∈ ds, ∃ r, rendering d = .ok r) :
    (ds.filterMap (entryOf rendering)).length = ds.length := by
  rw [List.filterMap_length_eq_length]
  intro d hd
  obtain ⟨r, hr⟩ := h d hd
  simp [entryOf, hr]

end Invariant

/-! ## §7. THE BUILD THEOREM. -/

/-- **What a build comes to, on every unit**: it succeeds exactly if all included
declarations render and no name has two identities; it then holds the first
entry of every name, which in a valid unit is every entry; and it fails exactly
with what stops the first included declaration that is stopped. -/
theorem build_result_spec (filter : Filter) (cx : Context) (render : Renderer) :
    ((∃ m, (build filter cx render).2 = .ok m)
      ↔ (∀ d ∈ included filter cx, ∃ r, rendering filter cx render d = .ok r)
        ∧ ∀ d ∈ included filter cx, ∀ d' ∈ included filter cx, ∀ r r',
            rendering filter cx render d = .ok r →
            rendering filter cx render d' = .ok r' →
            r.name = r'.name → d.id = d'.id)
    ∧ (∀ m, (build filter cx render).2 = .ok m →
        m.entries = Entry.firsts
            ((included filter cx).filterMap (entryOf (rendering filter cx render)))
        ∧ (cx.unit.fault? = none →
            m.entries
                = (included filter cx).filterMap (entryOf (rendering filter cx render))
            ∧ m.size = (included filter cx).length))
    ∧ ∀ e, (build filter cx render).2 = .error e
        ↔ ∃ before d after, included filter cx = before ++ d :: after
            ∧ Unobstructed (rendering filter cx render) [] before
            ∧ Obstacle (rendering filter cx render) before d e := by
  rw [build_result]
  refine ⟨?_, ?_, fun e => insertAll_eq_error_iff _ e⟩
  · rw [← unobstructed_iff]
    constructor
    · rintro ⟨m, hm⟩
      exact ((insertAll_eq_ok_iff _ m).mp hm).1
    · intro h
      exact ⟨_, (insertAll_eq_ok_iff _ _).mpr ⟨h, rfl⟩⟩
  · intro m hm
    obtain ⟨hfree, rfl⟩ := (insertAll_eq_ok_iff _ m).mp hm
    refine ⟨rfl, fun hvalid => ?_⟩
    have hnodup : ((included filter cx).map (·.id)).Nodup :=
      (SourceUnit.nodup_decl_ids_of_valid hvalid).sublist
        (List.filter_sublist.map _)
    have hentries := entries_ofDecls_of_nodup hnodup hfree
    refine ⟨hentries, ?_⟩
    rw [size, hentries]
    exact length_filterMap_entryOf ((unobstructed_iff _).mp hfree).1

end Module

end DeclExport
