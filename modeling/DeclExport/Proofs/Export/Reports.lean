/-
  DeclExport.Proofs.Export.Reports
  ────────────────────────────────
  **WHAT A BUILD REPORTS.**

  What is reported on a declaration is its account: the verdict of every node of the
  filter, and then that it is skipped or that it is added.  A build takes the declarations
  up in source order, and its log is their accounts, one behind the other
  (`extend_append_of_ok`).  The declaration that ends it has its account up to the failure:

      log of a module    =  account d₁ … account dₙ
      log of a failure   =  account d₁ … account dₖ  verdicts on d (adding d)

  All events of an account name its declaration, so in a log the accounts are told apart
  where identities are (`filter_reportsOn_accounts`).
-/
import DeclExport.Proofs.Export.Building
import DeclExport.Proofs.Selection.Reporting

namespace DeclExport

/-! ## §1. What events report on. -/

namespace Event

/-- Whether an event reports on a declaration while the module is built. -/
def reportsOn (id : DeclId) : Event → Bool
  | judged other _ _ | skipping other _ _ | adding other _ _ => other = id
  | collected _ _ | assembled _ _ _ => false

end Event

/-! ## §2. The log of a build. -/

namespace Module

section Logs

variable (filter : Filter) (cx : Context) (render : Renderer)

/-- The included ones among declarations. -/
def includedAmong (ds : List Decl) : List Decl :=
  ds.filter fun d => (filter.verdict cx d).isIncluded

theorem includedAmong_cons (d : Decl) (ds : List Decl) :
    includedAmong filter cx (d :: ds)
      = if (filter.verdict cx d).isIncluded then d :: includedAmong filter cx ds
        else includedAmong filter cx ds :=
  List.filter_cons

/-- What is reported on a declaration that a build takes up: nothing follows the verdicts
if it is included and not rendered. -/
def account (d : Decl) : List Event :=
  if (filter.verdict cx d).isIncluded then
    match rendering filter cx render d with
    | .error _ => filter.events cx d
    | .ok r => addingEvents filter cx d r
  else skippingEvents filter cx d

/-- **One declaration**, and then the others: its account comes out whatever comes of it. -/
theorem extend_cons (m : Module) (d : Decl) (ds : List Decl) :
    extend filter cx render m (d :: ds)
      = match (extend filter cx render m [d]).2 with
        | .error e => (account filter cx render d, .error e)
        | .ok m' => (account filter cx render d ++ (extend filter cx render m' ds).1,
            (extend filter cx render m' ds).2) := by
  unfold account rendering
  by_cases hd : (filter.verdict cx d).isIncluded = true
  · simp only [extend, hd, if_true]
    cases render d (filter.verdict cx d) cx.annotations with
    | error e => rfl
    | ok r =>
        dsimp only
        cases m.insert ⟨r.name, r.term, d.id⟩ with
        | error e => rfl
        | ok m' => rfl
  · simp only [extend, hd, Bool.false_eq_true, if_false]

variable {filter cx render}

/-- **Declarations that are taken in** leave their accounts in front of the log. -/
theorem extend_append_of_ok (xs : List Decl) : ∀ {m m' : Module},
    (extend filter cx render m xs).2 = .ok m' → ∀ ys,
      extend filter cx render m (xs ++ ys)
        = (xs.flatMap (account filter cx render) ++ (extend filter cx render m' ys).1,
          (extend filter cx render m' ys).2) := by
  induction xs with
  | nil =>
      intro m m' h ys
      obtain rfl := Except.ok.inj h
      rfl
  | cons d xs ih =>
      intro m m' h ys
      rw [extend_cons] at h
      rw [List.cons_append, extend_cons]
      cases hd : (extend filter cx render m [d]).2 with
      | error e =>
          rw [hd] at h
          cases h
      | ok m₁ =>
          rw [hd] at h
          dsimp only at h ⊢
          rw [ih h, List.flatMap_cons, List.append_assoc]

theorem build_log_of_ok {m : Module} (h : (build filter cx render).2 = .ok m) :
    (build filter cx render).1 = cx.unit.decls.flatMap (account filter cx render) := by
  have hrun := extend_append_of_ok cx.unit.decls h []
  rw [List.append_nil] at hrun
  show (extend filter cx render empty cx.unit.decls).1 = _
  rw [hrun]
  exact List.append_nil _

/-- An included declaration stands behind the included ones that are in front of it. -/
theorem exists_split_of_includedAmong {ds xs ys : List Decl} {d : Decl}
    (h : includedAmong filter cx ds = xs ++ d :: ys) :
    ∃ before after, ds = before ++ d :: after ∧ includedAmong filter cx before = xs
      ∧ (filter.verdict cx d).isIncluded = true := by
  obtain ⟨earlier, rest, rfl, hearlier, hrest⟩ := List.filter_eq_append_iff.mp h
  -- between the last one of `xs` and `d` there may be others that are passed over
  obtain ⟨passed, after, rfl, hpassed, hd, -⟩ := List.filter_eq_cons_iff.mp hrest
  refine ⟨earlier ++ passed, after, (List.append_assoc _ _ _).symm, ?_, hd⟩
  rw [includedAmong, List.filter_append, List.filter_eq_nil_iff.mpr hpassed, List.append_nil]
  exact hearlier

/-- **A build that fails** has taken in the declarations in front of the one that is
stopped, and has reported on that one; nothing behind it is looked at. -/
theorem build_log_of_error {e : Failure} (h : (build filter cx render).2 = .error e) :
    ∃ before d after, cx.unit.decls = before ++ d :: after
      ∧ (filter.verdict cx d).isIncluded = true
      ∧ Unobstructed (rendering filter cx render) [] (includedAmong filter cx before)
      ∧ Obstacle (rendering filter cx render) (includedAmong filter cx before) d e
      ∧ (build filter cx render).1
          = before.flatMap (account filter cx render) ++ account filter cx render d := by
  rw [build_result, insertAll_eq_error_iff] at h
  obtain ⟨xs, d, ys, hsplit, hfree, hstopped⟩ := h
  obtain ⟨before, after, hdecls, rfl, hd⟩ := exists_split_of_includedAmong hsplit
  have htaken : (extend filter cx render empty before).2
      = .ok (ofDecls (rendering filter cx render) (includedAmong filter cx before)) := by
    rw [extend_result]
    exact (insertAll_eq_ok_iff _ _).mpr ⟨hfree, rfl⟩
  have hends : (extend filter cx render
      (ofDecls (rendering filter cx render) (includedAmong filter cx before)) [d]).2
        = .error e := by
    rw [extend_result]
    show Module.insertAll _ _ (includedAmong filter cx [d]) = _
    rw [includedAmong_cons, if_pos hd]
    exact insertAll_cons_of_obstacle hstopped []
  refine ⟨before, d, after, hdecls, hd, hfree, hstopped, ?_⟩
  show (extend filter cx render empty cx.unit.decls).1 = _
  rw [hdecls, extend_append_of_ok _ htaken, extend_cons, hends]

end Logs

/-! ## §3. Accounts are told apart by identity. -/

section Identities

variable {filter : Filter} {cx : Context} {render : Renderer}

/-- Every event of an account reports on its declaration. -/
theorem reportsOn_of_mem_account {d : Decl} {event : Event}
    (h : event ∈ account filter cx render d) (id : DeclId) :
    event.reportsOn id = decide (d.id = id) := by
  have hevents : ∀ event ∈ filter.events cx d, event.reportsOn id = decide (d.id = id) := by
    intro event hevent
    rw [Filter.events_eq_map_nodes] at hevent
    obtain ⟨node, -, rfl⟩ := List.mem_map.mp hevent
    rfl
  unfold account at h
  by_cases hd : (filter.verdict cx d).isIncluded = true
  · rw [if_pos hd] at h
    cases hr : rendering filter cx render d with
    | error e =>
        rw [hr] at h
        exact hevents event h
    | ok r =>
        rw [hr] at h
        rcases List.mem_append.mp h with hjudged | hadding
        · exact hevents event hjudged
        · obtain rfl := List.mem_singleton.mp hadding
          rfl
  · rw [if_neg hd] at h
    rcases List.mem_append.mp h with hjudged | hskipping
    · exact hevents event hjudged
    · obtain rfl := List.mem_singleton.mp hskipping
      rfl

/-- What is reported on an identity is the accounts of the declarations that have it. -/
theorem filter_reportsOn_accounts (id : DeclId) (ds : List Decl) :
    (ds.flatMap (account filter cx render)).filter (·.reportsOn id)
      = (ds.filter fun d => d.id = id).flatMap (account filter cx render) := by
  induction ds with
  | nil => rfl
  | cons d ds ih =>
      rw [List.flatMap_cons, List.filter_append, ih]
      by_cases hd : d.id = id
      · have hown : (account filter cx render d).filter (·.reportsOn id)
            = account filter cx render d := by
          rw [List.filter_eq_self]
          intro event hevent
          rw [reportsOn_of_mem_account hevent, decide_eq_true hd]
        rw [hown, List.filter_cons_of_pos (by simpa using hd), List.flatMap_cons]
      · have hother : (account filter cx render d).filter (·.reportsOn id) = [] := by
          rw [List.filter_eq_nil_iff]
          intro event hevent
          rw [reportsOn_of_mem_account hevent, decide_eq_false hd]
          exact Bool.false_ne_true
        rw [hother, List.filter_cons_of_neg (by simpa using hd), List.nil_append]

end Identities

end Module

end DeclExport
