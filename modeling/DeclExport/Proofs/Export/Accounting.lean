/-
  DeclExport.Proofs.Export.Accounting
  ────────────────────────────────
  **THE LOG ACCOUNTS FOR EVERY DECLARATION.**

  The log of an export is the annotations that are collected, what its build reports, and
  a summary if a module was built.  In a valid unit identities are distinct.  So one event
  of the collection stands for one annotated declaration, no entry is dropped, and the
  summary counts the events in front of it, though its numbers come from elsewhere:

      declarations   length of the unit   =  adding and skipping events
      annotated      size of the table    =  collected events          (`size_context`)
      exported       size of the module   =  adding events
-/
import DeclExport.Proofs.Annotation.History
import DeclExport.Proofs.Export.Reports
import DeclExport.Proofs.Export.Selection

namespace DeclExport

/-! ## §1. What is counted. -/

namespace Event

/-- The name that an event adds to the module. -/
def addedName? : Event → Option String
  | adding _ name _ => some name
  | _ => none

def isAdding : Event → Bool
  | adding _ _ _ => true
  | _ => false

def isSkipping : Event → Bool
  | skipping _ _ _ => true
  | _ => false

def isCollected : Event → Bool
  | collected _ _ => true
  | _ => false

end Event

/-! ## §2. Accounts of an export. -/

/-- Terms are named by the qualified name. -/
theorem name_of_renderTerm {d : Decl} {v : Verdict} {t : AnnotationTable} {r : Rendered}
    (h : renderTerm d v t = .ok r) : r.name = d.qualifiedName := by
  obtain ⟨_, _, rfl⟩ := renderTerm_eq_ok_iff.mp h
  rfl

namespace ExportOptions

variable (o : ExportOptions) (u : SourceUnit)

/-- The verdicts of the gates on a declaration, and then that of the filter. -/
def judgements (d : Decl) : List Event := o.filter.nodes.map (Filter.judgement u.context d)

/-- That a declaration is added, or that it is skipped. -/
def settlement (d : Decl) : Event :=
  if (o.filter.verdict u.context d).isIncluded then
    .adding d.id d.qualifiedName (o.filter.verdict u.context d)
  else .skipping d.id d.qualifiedName (o.filter.verdict u.context d)

/-- What is reported on a declaration that is skipped or added. -/
def account (d : Decl) : List Event := o.judgements u d ++ [o.settlement u d]

theorem nodes_filter : o.filter.nodes = o.gates ++ [o.filter] := by
  obtain ⟨shape, reduction, exportKey, roots⟩ := o
  cases exportKey with
  | none => rfl
  | some key => rfl

variable {o u}

section Accounts

variable {d : Decl}

/-- A declaration that is skipped, or rendered and added. -/
theorem account_of_rendered
    (h : (o.filter.verdict u.context d).isIncluded = true →
      ∃ r, Module.rendering o.filter u.context renderTerm d = .ok r) :
    Module.account o.filter u.context renderTerm d = o.account u d := by
  unfold account settlement judgements
  rw [← Filter.events_eq_map_nodes]
  by_cases hd : (o.filter.verdict u.context d).isIncluded = true
  · obtain ⟨r, hr⟩ := h hd
    have hname : r.name = d.qualifiedName := name_of_renderTerm hr
    rw [Module.account, if_pos hd, if_pos hd, hr]
    dsimp only
    rw [Module.addingEvents, hname]
  · rw [Module.account, if_neg hd, if_neg hd]
    rfl

/-- A declaration that is included and not rendered. -/
theorem account_of_unrendered {e : Failure}
    (hd : (o.filter.verdict u.context d).isIncluded = true)
    (h : Module.rendering o.filter u.context renderTerm d = .error e) :
    Module.account o.filter u.context renderTerm d = o.judgements u d := by
  rw [Module.account, if_pos hd, h, judgements, ← Filter.events_eq_map_nodes]

theorem isAdding_settlement :
    (o.settlement u d).isAdding = (o.filter.verdict u.context d).isIncluded := by
  unfold settlement
  cases (o.filter.verdict u.context d).isIncluded <;> rfl

theorem isSkipping_settlement :
    (o.settlement u d).isSkipping = !(o.filter.verdict u.context d).isIncluded := by
  unfold settlement
  cases (o.filter.verdict u.context d).isIncluded <;> rfl

theorem isCollected_settlement : (o.settlement u d).isCollected = false := by
  unfold settlement
  cases (o.filter.verdict u.context d).isIncluded <;> rfl

end Accounts

/-- Where verdicts do not count, one event of every account may. -/
theorem countP_accounts {p : Event → Bool} (hp : ∀ id v label, p (.judged id v label) = false)
    (ds : List Decl) :
    (ds.flatMap (o.account u)).countP p = ds.countP fun d => p (o.settlement u d) := by
  induction ds with
  | nil => rfl
  | cons d ds ih =>
      have hjudged : (o.judgements u d).countP p = 0 := by
        rw [List.countP_eq_zero]
        intro event hevent
        obtain ⟨node, -, rfl⟩ := List.mem_map.mp hevent
        exact (hp _ _ _).symm ▸ Bool.false_ne_true
      rw [List.flatMap_cons, List.countP_append, ih, account, List.countP_append, hjudged,
        Nat.zero_add, List.countP_singleton, List.countP_cons, Nat.add_comm]

/-- The names that are added are those of the included declarations. -/
theorem addedNames_accounts (ds : List Decl) :
    (ds.flatMap (o.account u)).filterMap Event.addedName?
      = (Module.includedAmong o.filter u.context ds).map Decl.qualifiedName := by
  induction ds with
  | nil => rfl
  | cons d ds ih =>
      have hjudged : (o.judgements u d).filterMap Event.addedName? = [] := by
        rw [List.filterMap_eq_nil_iff]
        intro event hevent
        obtain ⟨node, -, rfl⟩ := List.mem_map.mp hevent
        rfl
      rw [List.flatMap_cons, List.filterMap_append, ih, account, List.filterMap_append, hjudged,
        List.nil_append, Module.includedAmong_cons, settlement]
      cases (o.filter.verdict u.context d).isIncluded <;> rfl

end ExportOptions

/-! ## §3. What the summary counts. -/

namespace SourceUnit

variable {u : SourceUnit} {o : ExportOptions}

/-- An announcement is of some annotation. -/
theorem ne_nil_of_mem_announcements {row : DeclId × List Annotation}
    (h : row ∈ u.announcements) : row.2 ≠ [] := by
  have hrow := (List.mem_filter.mp h).2
  intro hnil
  rw [hnil] at hrow
  cases hrow

/-- Where identities are distinct, the declarations with a record are those that announce
something, each once. -/
theorem size_context (hnodup : (u.decls.map (·.id)).Nodup) :
    u.context.annotations.size = u.announcements.length := by
  have hkeyed : u.context.annotations.IsKeyed :=
    AnnotationTable.IsKeyed.foldl_record _ AnnotationTable.isKeyed_empty
  have hannouncing : (u.announcements.map (·.1)).Nodup := by
    have hrows : ((u.decls.map fun d => (d.id, d.annotations)).map (·.1)).Nodup := by
      rw [List.map_map]
      exact hnodup
    exact hrows.sublist (List.filter_sublist.map _)
  have hmem : ∀ id, id ∈ u.context.annotations.annotated ↔ id ∈ u.announcements.map (·.1) := by
    intro id
    rw [AnnotationTable.mem_annotated_iff hkeyed]
    show (u.collectInto .empty).lookup id ≠ [] ↔ _
    rw [collectInto, AnnotationTable.lookup_foldl_record, AnnotationTable.lookup_empty,
      List.nil_append, ne_eq, List.flatMap_eq_nil_iff, List.mem_map]
    constructor
    · intro h
      by_contra hnone
      refine h fun row hrow => ?_
      obtain ⟨hmem, hid⟩ := List.mem_filter.mp hrow
      exact absurd ⟨row, hmem, of_decide_eq_true hid⟩ hnone
    · rintro ⟨row, hrow, hid⟩ hnil
      exact ne_nil_of_mem_announcements hrow
        (hnil row (List.mem_filter.mpr ⟨hrow, decide_eq_true hid⟩))
  have hperm := (List.perm_ext_iff_of_nodup hkeyed.nodup_annotated hannouncing).mpr hmem
  rw [AnnotationTable.size_eq_length_annotated, hperm.length_eq, List.length_map]

/-- In a valid unit, entries have the names of the included declarations, in order. -/
theorem names_of_exportedModule (hvalid : u.fault? = none) {m : Module}
    (h : (u.exportedModule o renderTerm).2 = .ok m) :
    m.entries.map (·.name)
      = (Module.includedAmong o.filter u.context u.decls).map Decl.qualifiedName := by
  rw [exportedModule, Module.build_result] at h
  obtain ⟨hfree, rfl⟩ := (Module.insertAll_eq_ok_iff _ m).mp h
  have hnodup : ((Module.included o.filter u.context).map (·.id)).Nodup :=
    (nodup_decl_ids_of_valid hvalid).sublist (List.filter_sublist.map _)
  have hentries := Module.forall₂_filterMap_entryOf ((Module.unobstructed_iff _).mp hfree).1
  rw [Module.entries_ofDecls_of_nodup hnodup hfree]
  have hnames := hentries.imp fun d e he => name_of_renderTerm he.2
  have hmaps := List.forall₂_map_left_iff.mpr (List.forall₂_map_right_iff.mpr hnames.flip)
  exact List.forall₂_eq_eq_eq ▸ hmaps

/-! ## §4. The log of an export. -/

theorem log_exportDocument_of_ok {render : Renderer} {m : Module}
    (h : (u.exportedModule o render).2 = .ok m) (s : Sink) :
    (u.exportDocument o render s).log
      = u.collectionEvents ++ (u.exportedModule o render).1
        ++ [.assembled u.decls.length u.context.annotations.size m.size] := by
  rw [exportDocument]
  cases hmodule : u.exportedModule o render with
  | mk log result =>
      rw [hmodule] at h
      obtain rfl : result = .ok m := h
      dsimp only

theorem log_exportDocument_of_error {render : Renderer} {e : Failure}
    (h : (u.exportedModule o render).2 = .error e) (s : Sink) :
    (u.exportDocument o render s).log
      = u.collectionEvents ++ (u.exportedModule o render).1 := by
  rw [exportDocument]
  cases hmodule : u.exportedModule o render with
  | mk log result =>
      rw [hmodule] at h
      obtain rfl : result = .error e := h
      rfl

section Reports

variable {ds : List Decl} {x : Decl}

/-- Events of the collection report on nobody while the module is built. -/
theorem filter_reportsOn_log (id : DeclId) (ds : List Decl) :
    (u.collectionEvents ++ ds.flatMap (Module.account o.filter u.context renderTerm)).filter
        (·.reportsOn id)
      = (ds.filter fun d => d.id = id).flatMap
          (Module.account o.filter u.context renderTerm) := by
  have hcollected : u.collectionEvents.filter (·.reportsOn id) = [] := by
    rw [List.filter_eq_nil_iff]
    intro event hevent
    obtain ⟨row, -, rfl⟩ := List.mem_map.mp hevent
    exact Bool.false_ne_true
  rw [List.filter_append, hcollected, List.nil_append, Module.filter_reportsOn_accounts]

/-- On a declaration that a build has taken up, its account is reported and nothing else. -/
theorem reports_of_mem (hnodup : (ds.map (·.id)).Nodup) (hx : x ∈ ds) :
    (u.collectionEvents ++ ds.flatMap (Module.account o.filter u.context renderTerm)).filter
        (·.reportsOn x.id)
      = Module.account o.filter u.context renderTerm x := by
  rw [filter_reportsOn_log, filter_id_eq_singleton hnodup hx, List.flatMap_singleton]

/-- On any other nothing is reported. -/
theorem reports_of_notMem (hx : x.id ∉ ds.map (·.id)) :
    (u.collectionEvents ++ ds.flatMap (Module.account o.filter u.context renderTerm)).filter
        (·.reportsOn x.id) = [] := by
  have hnone : ds.filter (fun d => d.id = x.id) = [] := by
    rw [List.filter_eq_nil_iff]
    intro d hd hid
    exact hx (of_decide_eq_true hid ▸ List.mem_map_of_mem hd)
  rw [filter_reportsOn_log, hnone, List.flatMap_nil]

end Reports

/-- No summary stands among the accounts. -/
theorem assembled_notMem_log (declarations annotated exported : Nat) (ds : List Decl) :
    .assembled declarations annotated exported
      ∉ u.collectionEvents ++ ds.flatMap (Module.account o.filter u.context renderTerm) := by
  intro hmem
  rcases List.mem_append.mp hmem with hcollected | haccount
  · obtain ⟨row, -, hrow⟩ := List.mem_map.mp hcollected
    cases hrow
  · obtain ⟨d, -, hd⟩ := List.mem_flatMap.mp haccount
    have hreports := Module.reportsOn_of_mem_account hd d.id
    rw [decide_eq_true rfl] at hreports
    cases hreports

/-- Events of the collection are neither skipping nor adding. -/
theorem countP_collectionEvents (u : SourceUnit) :
    u.collectionEvents.countP Event.isAdding = 0
      ∧ u.collectionEvents.countP Event.isSkipping = 0
      ∧ u.collectionEvents.countP Event.isCollected = u.announcements.length
      ∧ u.collectionEvents.filterMap Event.addedName? = [] := by
  unfold collectionEvents
  rw [List.countP_map, List.countP_map, List.countP_map, List.filterMap_map]
  exact ⟨congrFun List.countP_false _, congrFun List.countP_false _,
    congrFun List.countP_true _, List.filterMap_none _⟩

end SourceUnit

/-! ## §5. THE ACCOUNTING THEOREM. -/

namespace ExportOptions

variable (o : ExportOptions) (u : SourceUnit)

/-- The annotations that are collected, and then the account of every declaration. -/
def events : List Event := u.collectionEvents ++ u.decls.flatMap (o.account u)

/-- **The log of a module**: every declaration has its account and no event besides, the
names that are added are those of the entries, and the one summary stands at the end and
counts the events in front of it. -/
structure IsCompleteLog (m : Module) (log : List Event) : Prop where
  log_eq : log = o.events u
    ++ [.assembled ((o.events u).countP Event.isAdding + (o.events u).countP Event.isSkipping)
      ((o.events u).countP Event.isCollected) ((o.events u).countP Event.isAdding)]
  added_eq : (o.events u).filterMap Event.addedName? = m.entries.map (·.name)
  no_other_summary : ∀ declarations annotated exported,
    .assembled declarations annotated exported ∉ o.events u
  reports_eq : ∀ x ∈ u.decls, log.filter (·.reportsOn x.id) = o.account u x

/-- What follows the verdicts on a declaration that is stopped after those in `before`:
nothing if it is not rendered; that it is added, if its name is that of another one. -/
inductive Ending (before : List Decl) (d : Decl) : List Event → Failure → Prop where
  | unrendered {e : Failure}
      (failed : renderTerm d (o.filter.verdict u.context d) u.context.annotations = .error e) :
      Ending before d [] e
  | taken {owner : Decl} (earlier : owner ∈ Module.includedAmong o.filter u.context before)
      (name_eq : owner.qualifiedName = d.qualifiedName) (other : owner.id ≠ d.id) :
      Ending before d [.adding d.id d.qualifiedName (o.filter.verdict u.context d)]
        (.collision d.qualifiedName owner.id d.id)

/-- **The log of a failure** that stops a declaration.  Those in front of it have their
accounts, those behind it have no event, and there is no summary. -/
structure IsLogUpTo (before : List Decl) (d : Decl) (after : List Decl) (e : Failure)
    (log : List Event) : Prop where
  decls_eq : u.decls = before ++ d :: after
  log_eq : ∃ ending, o.Ending u before d ending e
    ∧ log = u.collectionEvents ++ before.flatMap (o.account u) ++ (o.judgements u d ++ ending)
  no_summary : ∀ declarations annotated exported,
    .assembled declarations annotated exported ∉ log
  reports_before : ∀ x ∈ before, log.filter (·.reportsOn x.id) = o.account u x
  reports_behind : ∀ x ∈ after, log.filter (·.reportsOn x.id) = []

variable {o u}

/-- Declarations that are rendered where they are included have full accounts. -/
theorem account_of_mem {ds : List Decl}
    (h : ∀ d ∈ Module.includedAmong o.filter u.context ds,
      ∃ r, Module.rendering o.filter u.context renderTerm d = .ok r) :
    ∀ d ∈ ds, Module.account o.filter u.context renderTerm d = o.account u d := by
  intro d hd
  exact account_of_rendered fun hincluded => h d (List.mem_filter.mpr ⟨hd, hincluded⟩)

/-- As many events add as declarations are included. -/
theorem countP_isAdding_events :
    (o.events u).countP Event.isAdding
      = (Module.includedAmong o.filter u.context u.decls).length := by
  obtain ⟨hcollection, -, -, -⟩ := u.countP_collectionEvents
  rw [events, List.countP_append, hcollection, Nat.zero_add, countP_accounts fun _ _ _ => rfl]
  simp only [isAdding_settlement]
  exact List.countP_eq_length_filter

/-- Every declaration is added or skipped, and none is both. -/
theorem countP_settlements_events :
    (o.events u).countP Event.isAdding + (o.events u).countP Event.isSkipping
      = u.decls.length := by
  obtain ⟨-, hcollection, -, -⟩ := u.countP_collectionEvents
  have hskipping : (o.events u).countP Event.isSkipping
      = u.decls.countP fun d => !(o.filter.verdict u.context d).isIncluded := by
    rw [events, List.countP_append, hcollection, Nat.zero_add, countP_accounts fun _ _ _ => rfl]
    simp only [isSkipping_settlement]
  have hlength : u.decls.length
      = u.decls.countP (fun d => (o.filter.verdict u.context d).isIncluded)
        + u.decls.countP fun d => ¬ (o.filter.verdict u.context d).isIncluded :=
    List.length_eq_countP_add_countP _
  rw [countP_isAdding_events, hskipping, Module.includedAmong, ← List.countP_eq_length_filter,
    hlength]
  simp

theorem countP_isCollected_events :
    (o.events u).countP Event.isCollected = u.announcements.length := by
  obtain ⟨-, -, hcollection, -⟩ := u.countP_collectionEvents
  rw [events, List.countP_append, hcollection, countP_accounts fun _ _ _ => rfl]
  simp only [isCollected_settlement]
  rw [congrFun List.countP_false u.decls]
  rfl

theorem isCompleteLog_of_ok (hvalid : u.fault? = none) {m : Module}
    (h : (u.exportedModule o renderTerm).2 = .ok m) (s : Sink) :
    o.IsCompleteLog u m (u.exportDocument o renderTerm s).log := by
  have hids := SourceUnit.nodup_decl_ids_of_valid hvalid
  have hnames := SourceUnit.names_of_exportedModule hvalid h
  have hrendered := (Module.unobstructed_iff _).mp
    ((Module.insertAll_eq_ok_iff _ m).mp ((Module.build_result _ _ _).symm.trans h)).1
  have haccounts : ∀ d ∈ u.decls,
      Module.account o.filter u.context renderTerm d = o.account u d :=
    account_of_mem hrendered.1
  have hevents : u.collectionEvents
      ++ u.decls.flatMap (Module.account o.filter u.context renderTerm) = o.events u := by
    rw [events, List.flatMap_congr haccounts]
  have hbuild : (u.exportedModule o renderTerm).1
      = u.decls.flatMap (Module.account o.filter u.context renderTerm) :=
    Module.build_log_of_ok h
  -- the summary has its numbers from the unit, the table and the module
  have hsize : m.size = (o.events u).countP Event.isAdding := by
    rw [countP_isAdding_events, Module.size, ← List.length_map, hnames, List.length_map]
  have hlog : (u.exportDocument o renderTerm s).log = o.events u
      ++ [.assembled ((o.events u).countP Event.isAdding + (o.events u).countP Event.isSkipping)
        ((o.events u).countP Event.isCollected) ((o.events u).countP Event.isAdding)] := by
    rw [SourceUnit.log_exportDocument_of_ok h, hbuild, hevents, hsize,
      SourceUnit.size_context hids, countP_settlements_events, countP_isCollected_events]
  refine ⟨hlog, ?_, ?_, ?_⟩
  · obtain ⟨-, -, -, hcollection⟩ := u.countP_collectionEvents
    rw [events, List.filterMap_append, hcollection, List.nil_append, addedNames_accounts, hnames]
  · intro declarations annotated exported
    rw [← hevents]
    exact SourceUnit.assembled_notMem_log declarations annotated exported u.decls
  · intro x hx
    have hsummary : ∀ a b c, [Event.assembled a b c].filter (·.reportsOn x.id) = [] :=
      fun _ _ _ => rfl
    rw [hlog, List.filter_append, hsummary, List.append_nil, ← hevents,
      SourceUnit.reports_of_mem hids hx, haccounts x hx]

/-- The account of a declaration that is stopped goes as far as its failure. -/
theorem exists_ending {before : List Decl} {d : Decl} {e : Failure}
    (hincluded : (o.filter.verdict u.context d).isIncluded = true)
    (h : Module.Obstacle (Module.rendering o.filter u.context renderTerm)
      (Module.includedAmong o.filter u.context before) d e) :
    ∃ ending, o.Ending u before d ending e
      ∧ Module.account o.filter u.context renderTerm d = o.judgements u d ++ ending := by
  cases h with
  | unrendered failed =>
      refine ⟨[], .unrendered failed, ?_⟩
      rw [account_of_unrendered hincluded failed, List.append_nil]
  | @taken r owner rendered owned other =>
      obtain ⟨r', hrendered, hname⟩ := Module.isNamed_of_owner? owned
      have howner : owner.qualifiedName = d.qualifiedName := by
        rw [← name_of_renderTerm hrendered, hname, name_of_renderTerm rendered]
      rw [name_of_renderTerm rendered, account_of_rendered fun _ => ⟨r, rendered⟩]
      refine ⟨_, .taken (Module.mem_of_owner? owned) howner other, ?_⟩
      rw [account, settlement, if_pos hincluded]

theorem isLogUpTo_of_error (hvalid : u.fault? = none) {e : Failure}
    (h : (u.exportedModule o renderTerm).2 = .error e) (s : Sink) :
    ∃ before d after, o.IsLogUpTo u before d after e (u.exportDocument o renderTerm s).log := by
  obtain ⟨before, d, after, hdecls, hincluded, hfree, hstopped, hbuild⟩ :=
    Module.build_log_of_error h
  have haccounts := account_of_mem ((Module.unobstructed_iff _).mp hfree).1
  obtain ⟨ending, hending, haccount⟩ := exists_ending hincluded hstopped
  have hlog : (u.exportDocument o renderTerm s).log = u.collectionEvents
      ++ (before ++ [d]).flatMap (Module.account o.filter u.context renderTerm) := by
    rw [SourceUnit.log_exportDocument_of_error h, List.flatMap_append, List.flatMap_singleton]
    exact congrArg _ hbuild
  -- the identities that the log is about, and those that it is not about
  have hids : ((before ++ [d]).map (·.id) ++ after.map (·.id)).Nodup := by
    rw [← List.map_append, List.append_assoc, List.singleton_append, ← hdecls]
    exact SourceUnit.nodup_decl_ids_of_valid hvalid
  obtain ⟨hnodup, -, hapart⟩ := List.nodup_append.mp hids
  refine ⟨before, d, after, hdecls, ⟨ending, hending, ?_⟩, ?_, ?_, ?_⟩
  · rw [hlog, List.flatMap_append, List.flatMap_singleton, List.flatMap_congr haccounts,
      haccount, ← List.append_assoc]
  · intro declarations annotated exported
    rw [hlog]
    exact SourceUnit.assembled_notMem_log declarations annotated exported _
  · intro x hx
    rw [hlog, SourceUnit.reports_of_mem hnodup (List.mem_append_left _ hx), haccounts x hx]
  · intro x hx
    rw [hlog]
    exact SourceUnit.reports_of_notMem fun hmem =>
      hapart _ hmem _ (List.mem_map_of_mem hx) rfl

end ExportOptions

/-- **The log accounts for every declaration of a valid unit exactly once.**  One pass over
the filter gives its verdict and one event for every node, the gates before the whole.
Where a module is built, and it is where the export comes through, the log is complete;
where none is built, it is complete up to the declaration that is stopped. -/
theorem SourceUnit.exportDocument_accounts {u : SourceUnit} (hvalid : u.fault? = none)
    (o : ExportOptions) (s : Sink) :
    (o.filter.nodes = o.gates ++ [o.filter]
      ∧ ∀ d, o.filter.judge u.context d = (o.judgements u d, o.filter.verdict u.context d))
    ∧ ((u.exportDocument o renderTerm s).failure = none →
        ∃ m, (u.exportedModule o renderTerm).2 = .ok m)
    ∧ (∀ m, (u.exportedModule o renderTerm).2 = .ok m →
        o.IsCompleteLog u m (u.exportDocument o renderTerm s).log)
    ∧ ∀ e, (u.exportedModule o renderTerm).2 = .error e →
        ∃ before d after, o.IsLogUpTo u before d after e (u.exportDocument o renderTerm s).log := by
  refine ⟨⟨o.nodes_filter, ?_⟩, ?_, ?_, ?_⟩
  · intro d
    rw [Filter.judge_eq, Filter.events_eq_map_nodes]
    rfl
  · intro h
    obtain ⟨m, hm, -, -⟩ := exportDocument_of_success h
    exact ⟨m, hm⟩
  · intro m h
    exact ExportOptions.isCompleteLog_of_ok hvalid h s
  · intro e h
    exact ExportOptions.isLogUpTo_of_error hvalid h s

/-- Four aliases, of which the second has no key and the third has the name of the first. -/
def SourceUnit.ofLateCollision : SourceUnit where
  files := [⟨⟨0⟩, "main.cpp", .main, none⟩]
  decls := [.ofTypedef 1 "a" (some 0) (some "// @export"), .ofTypedef 2 "b" (some 0) none,
    .ofTypedef 3 "a" (some 0) (some "// @export"), .ofTypedef 4 "c" (some 0) (some "// @export")]

/-- One of five aliases is exported, and the summary says so; the third of four collides,
and the log ends with it. -/
theorem SourceUnit.exportDocument_accounts_of_collision :
    (∃ m, ExportOptions.default.IsCompleteLog ofRegions m
        (ofRegions.exportDocument .default renderTerm .unbounded).log)
      ∧ (ofRegions.exportDocument .default renderTerm .unbounded).log.getLast?
        = some (.assembled 5 3 1)
      ∧ ∃ before d after, ExportOptions.default.IsLogUpTo ofLateCollision before d after
          (.collision "a" ⟨1⟩ ⟨3⟩)
          (ofLateCollision.exportDocument .default renderTerm .unbounded).log
        ∧ d.id = ⟨3⟩ := by
  obtain ⟨-, hbuilt, hcomplete, -⟩ := exportDocument_accounts (u := ofRegions)
    (by decide +kernel) .default .unbounded
  obtain ⟨m, hm⟩ := hbuilt (by decide +kernel)
  obtain ⟨-, -, -, hupTo⟩ := exportDocument_accounts (u := ofLateCollision)
    (by decide +kernel) .default .unbounded
  have hcollision : (ofLateCollision.exportedModule .default renderTerm).2
      = .error (.collision "a" ⟨1⟩ ⟨3⟩) := by
    decide +kernel
  obtain ⟨before, d, after, hlog⟩ := hupTo _ hcollision
  refine ⟨⟨m, hcomplete m hm⟩, by decide +kernel, before, d, after, hlog, ?_⟩
  obtain ⟨ending, hending, -⟩ := hlog.log_eq
  generalize hfailure : Failure.collision "a" ⟨1⟩ ⟨3⟩ = failure at hending
  cases hending with
  | unrendered failed =>
      -- nothing is refused a term for a collision
      obtain ⟨construct, -, hreason⟩ := Term.renderTerm_eq_error_iff.mp failed
      cases hfailure.trans hreason
  | taken => exact (Failure.collision.inj hfailure).2.2.symm

end DeclExport
