/-
  DeclExport.Proofs.Export.Scopes
  ────────────────────────────────
  **NO EXPORT COMPLAINS ABOUT SCOPES.**

  A mismatch of scopes is the one failure that no input and no sink is to blame for:
  a layout would have to be wrong.  The layouts of terms and entries open scopes
  around bodies only, so each ends at the depth that it begins at, wherever it breaks
  off:

      statement, block, fields, contract, entry    steady: only a full sink stops it
      declaration                                  steady, or refused before a word

  A document opens one scope by hand in front of its entries and closes it behind
  them.  So whatever begins without scopes comes to its end without any, and the last
  check finds none open.
-/
import DeclExport.Proofs.Export.Building
import DeclExport.Proofs.Export.Capacity
import DeclExport.Proofs.Term.Decl

namespace DeclExport

open Term

/-! ## §1. Steps that keep scopes. -/

namespace Step

/-- Steps that end at the depth that they begin at and do not fail by a mismatch of
scopes: at every depth, on every sink, and wherever they break off. -/
def KeepScopes (ss : List Step) : Prop :=
  ∀ f : Formatter, (runAll f ss).1.depth = f.depth
    ∧ ∀ fault, (runAll f ss).2 ≠ some (.unbalanced fault)

theorem AllSteady.keepScopes {ss : List Step} (h : AllSteady ss) : KeepScopes ss := by
  intro f
  obtain ⟨hdepth, hnone | hfull⟩ := Formatter.staysLevel_runAll ss h f
  · exact ⟨hdepth, by simp [hnone]⟩
  · exact ⟨hdepth, by simp [hfull]⟩

/-- What is run from no scopes to no scopes is delivered without a complaint about
scopes, that of the last check included. -/
theorem Leads.deliver_ne_unbalanced {ss : List Step} (h : Leads ss 0 0) (s : Sink)
    (fault : ScopeFault) : (runAll (.start s) ss).deliver.2 ≠ some (.unbalanced fault) := by
  rw [Outcome.deliver]
  rcases h (.start s) rfl with ⟨hnone, hdepth⟩ | hfull
  · -- the last check finds no scope, so the sink alone can fail
    rw [hnone, Formatter.finish, if_neg (by simpa using hdepth)]
    by_cases hflush : (runAll (.start s) ss).1.sink.flushFails = true <;> simp [hflush]
  · simp [hfull]

end Step

/-! ## §2. The layouts of terms. -/

namespace Term

open Step

theorem allSteady_contract (requires ensures : Option String) :
    AllSteady (contract requires ensures) := by
  unfold contract
  split <;> simp [AllSteady, Steady]

theorem allSteady_fieldTail (bs : List Binder) : AllSteady (fieldTail bs) := by
  induction bs with
  | nil => simp [fieldTail, AllSteady, Steady]
  | cons b bs ih => exact ⟨trivial, trivial, ih⟩

theorem allSteady_fields (bs : List Binder) : AllSteady (fields bs) := by
  cases bs with
  | nil => simp [fields, AllSteady, Steady]
  | cons b bs => exact ⟨trivial, allSteady_fieldTail bs⟩

mutual

/-- The layout of a statement is steady: scopes are opened around its parts only. -/
theorem allSteady_stmt : ∀ s : Stmt, AllSteady (stmt s)
  | .ret _ => ⟨trivial, trivial⟩
  | .eval _ => ⟨trivial, trivial⟩
  | .block [] => ⟨trivial, trivial⟩
  | .block (s :: ss) =>
      ⟨trivial, ⟨trivial, (allSteady_stmt s).append (allSteady_stmtTail ss)⟩, trivial, trivial⟩
  | .branch _ yes none =>
      ⟨trivial, ⟨trivial, (allSteady_stmt yes).append ⟨trivial, trivial, trivial⟩⟩,
        trivial, trivial⟩
  | .branch _ yes (some no) =>
      ⟨trivial, ⟨trivial, (allSteady_stmt yes).append ⟨trivial, allSteady_stmt no⟩⟩,
        trivial, trivial⟩
  | .loop _ body => ⟨trivial, ⟨trivial, allSteady_stmt body⟩, trivial, trivial⟩
  | .declare _ _ _ => ⟨trivial, trivial⟩

theorem allSteady_stmtTail : ∀ ss : List Stmt, AllSteady (stmtTail ss)
  | [] => trivial
  | s :: ss => ⟨trivial, trivial, (allSteady_stmt s).append (allSteady_stmtTail ss)⟩

end

theorem allSteady_bodySteps (body : Option (List Stmt)) : AllSteady (bodySteps body) := by
  cases body with
  | none => exact ⟨trivial, trivial⟩
  | some ss => exact ⟨trivial, ⟨trivial, allSteady_stmt _⟩, trivial⟩

theorem allSteady_fieldSteps (fs : Option (List Binder)) : AllSteady (fieldSteps fs) := by
  cases fs with
  | none => exact ⟨trivial, trivial⟩
  | some fs => exact ⟨trivial, ⟨trivial, allSteady_fields fs⟩, trivial, trivial⟩

/-- The layout of a declaration is steady, unless the declaration is refused. -/
theorem allSteady_decl_or (d : Decl) (full : Bool) (requires ensures : Option String) :
    AllSteady (decl d full requires ensures)
      ∨ ∃ reason, decl d full requires ensures = [.fail (.unrenderable d.id reason)] := by
  unfold decl
  cases d.kind with
  | function ret params body =>
      have hspec : AllSteady [.text ";", .line, .text "   f_body := "] := by
        simp [AllSteady, Steady]
      have hhead : AllSteady [.line, .text ("\x7b| f_return := " ++ ty ret ++ ";"),
          .line, .text ("   f_params := " ++ list (params.map binder) ++ ";"),
          .line, .text "   f_spec := "] := by
        simp [AllSteady, Steady]
      refine .inl ⟨trivial, ?_, trivial⟩
      exact (((hhead.append (allSteady_contract requires ensures)).append hspec).append
        (allSteady_bodySteps (body.filter fun _ => full))).append ⟨trivial, trivial⟩
  | «variable» t init => exact .inl ⟨trivial, trivial, trivial, trivial, trivial, trivial⟩
  | record tag fs =>
      exact .inl (AllSteady.append ⟨trivial, trivial, trivial⟩
        (allSteady_fieldSteps (fs.filter fun _ => full)))
  | enumeration cs => exact .inl ⟨trivial, trivial, trivial, trivial⟩
  | typedef t => exact .inl ⟨trivial, trivial, trivial, trivial⟩
  | unsupported construct => exact .inr ⟨_, rfl⟩

theorem keepScopes_decl (d : Decl) (full : Bool) (requires ensures : Option String) :
    KeepScopes (decl d full requires ensures) := by
  rcases allSteady_decl_or d full requires ensures with hsteady | ⟨reason, hrefused⟩
  · exact hsteady.keepScopes
  · rw [hrefused]
    exact fun f => ⟨rfl, by simp [runAll, run, Outcome.andThen]⟩

end Term

/-! ## §3. Exports. -/

theorem Module.assemble_ne_unbalanced (m : Module) (shape : DocumentShape) (s : Sink)
    (fault : ScopeFault) : (m.assemble shape s).2 ≠ some (.unbalanced fault) := by
  rw [assemble_eq_deliver]
  exact (m.leads_layout shape).deliver_ne_unbalanced s fault

theorem writeTerm_ne_unbalanced (term : String) (s : Sink) (fault : ScopeFault) :
    (writeTerm term s).2 ≠ some (.unbalanced fault) := by
  have hsteady : Step.AllSteady [.text term, .line] := by simp [Step.AllSteady, Step.Steady]
  rw [writeTerm_eq_deliver]
  exact (hsteady.leads 0).deliver_ne_unbalanced s fault

theorem renderTerm_ne_unbalanced (d : Decl) (v : Verdict) (t : AnnotationTable)
    (fault : ScopeFault) : renderTerm d v t ≠ .error (.unbalanced fault) := by
  intro h
  obtain ⟨_, _, hrefused⟩ := renderTerm_eq_error_iff.mp h
  exact absurd hrefused (by simp)

/-- A build fails by what a declaration is not rendered for, or by a collision. -/
theorem Module.build_ne_unbalanced (filter : Filter) (cx : Context) {render : Renderer}
    (hrender : ∀ d v t fault, render d v t ≠ .error (.unbalanced fault)) (fault : ScopeFault) :
    (build filter cx render).2 ≠ .error (.unbalanced fault) := by
  rw [build_result]
  intro h
  obtain ⟨_, d, _, _, _, hobstacle⟩ := (insertAll_eq_error_iff _ _).mp h
  cases hobstacle with
  | unrendered failed => exact hrender _ _ _ fault failed

theorem Decl.exportTerm_ne_unbalanced (d : Decl) (u : SourceUnit) (s : Sink)
    (fault : ScopeFault) : (d.exportTerm u renderTerm s).failure ≠ some (.unbalanced fault) := by
  show (d.exportTerm u renderTerm s).outcome.2 ≠ _
  cases hterm : renderTerm d (Filter.definitions.verdict (d.context u) d)
      (d.context u).annotations with
  | error e =>
      rw [outcome_exportTerm_of_error hterm]
      intro h
      exact renderTerm_ne_unbalanced _ _ _ fault (hterm.trans (congrArg _ (Option.some.inj h)))
  | ok r =>
      rw [outcome_exportTerm_of_ok hterm]
      exact writeTerm_ne_unbalanced r.term s fault

theorem Stmt.exportTerm_ne_unbalanced (t : Stmt) (s : Sink) (fault : ScopeFault) :
    (t.exportTerm s).2 ≠ some (.unbalanced fault) := by
  simp only [exportTerm, renderStmt_eq]
  exact writeTerm_ne_unbalanced _ s fault

theorem SourceUnit.exportDocument_ne_unbalanced (u : SourceUnit) (o : ExportOptions) (s : Sink)
    (fault : ScopeFault) :
    (u.exportDocument o renderTerm s).failure ≠ some (.unbalanced fault) := by
  show (u.exportDocument o renderTerm s).outcome.2 ≠ _
  cases hmodule : u.exportedModule o renderTerm with
  | mk log result =>
      cases result with
      | error e =>
          rw [outcome_exportDocument_of_error hmodule]
          intro h
          have hfailed : (Module.build o.filter u.context renderTerm).2
              = .error (.unbalanced fault) :=
            (congrArg Prod.snd hmodule).trans (congrArg _ (Option.some.inj h))
          exact Module.build_ne_unbalanced _ _ renderTerm_ne_unbalanced fault hfailed
      | ok m =>
          rw [outcome_exportDocument_of_ok hmodule]
          exact m.assemble_ne_unbalanced o.shape s fault

/-! ## §4. THE BALANCE THEOREM. -/

/-- **Scopes are balanced throughout**, on every sink and wherever it ends.  The layouts
of declarations, contracts, fields, blocks, statements and entries end at the depth
that they begin at, whether or not they come to their end; and no rendering, no
assembled module and no export fails by a mismatch of scopes. -/
theorem scopes_balanced :
    ((∀ (d : Decl) (v : Verdict) (t : AnnotationTable), Step.KeepScopes
          (decl d v.isFull (t.get? d.id "requires") (t.get? d.id "ensures")))
      ∧ (∀ (id : DeclId) (t : AnnotationTable), Step.KeepScopes
          (contract (t.get? id "requires") (t.get? id "ensures")))
      ∧ (∀ bs : List Binder, Step.KeepScopes (fields bs))
      ∧ (∀ ss : List Stmt, Step.KeepScopes (stmt (.block ss)))
      ∧ (∀ s : Stmt, Step.KeepScopes (stmt s))
      ∧ ∀ (doc : Document) (e : Entry),
          (doc.entry e).1.formatter.depth = doc.formatter.depth
            ∧ ∀ fault, (doc.entry e).2 ≠ some (.unbalanced fault))
    ∧ ∀ fault : ScopeFault,
      (∀ d v t, renderTerm d v t ≠ .error (.unbalanced fault))
        ∧ (∀ s, renderStmt s ≠ .error (.unbalanced fault))
        ∧ (∀ (m : Module) shape s, (m.assemble shape s).2 ≠ some (.unbalanced fault))
        ∧ (∀ (d : Decl) u s, (d.exportTerm u renderTerm s).failure ≠ some (.unbalanced fault))
        ∧ (∀ (t : Stmt) s, (t.exportTerm s).2 ≠ some (.unbalanced fault))
        ∧ ∀ (u : SourceUnit) o s,
            (u.exportDocument o renderTerm s).failure ≠ some (.unbalanced fault) := by
  constructor
  · exact ⟨fun d v t => keepScopes_decl d _ _ _,
      fun id t => (allSteady_contract _ _).keepScopes,
      fun bs => (allSteady_fields bs).keepScopes,
      fun ss => (allSteady_stmt (.block ss)).keepScopes,
      fun s => (allSteady_stmt s).keepScopes,
      fun doc e => (DocumentShape.allSteady_entry doc.shape e).keepScopes doc.formatter⟩
  · intro fault
    exact ⟨fun d v t => renderTerm_ne_unbalanced d v t fault,
      fun s => by simp [Stmt.renderStmt_eq],
      fun m shape s => m.assemble_ne_unbalanced shape s fault,
      fun d u s => d.exportTerm_ne_unbalanced u s fault,
      fun t s => t.exportTerm_ne_unbalanced s fault,
      fun u o s => u.exportDocument_ne_unbalanced o s fault⟩

end DeclExport
