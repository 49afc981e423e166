/-
  DeclExport.Proofs.Export.Capacity
  ────────────────────────────────
  **WHAT A SINK KEEPS OF AN EXPORT.**

  An export first makes what it writes, and then writes it:

      not made                   nothing is written
      made, and there is room    all is written, and the sink delivers or does not
      made, and there is none    what there is room for is written, and the sink is full

  The layouts of all exports open as many scopes as they close, and by hand only
  outside of bodies.  So what comes out is never a complaint about scopes, wherever
  the sink ends.
-/
import DeclExport.Export.Run
import DeclExport.Proofs.Export.Document
import DeclExport.Proofs.Layout.Capacity
import DeclExport.Proofs.Term.Stmt

namespace DeclExport

/-! ## §1. Deliveries. -/

/-- What comes of delivering to a sink with room for `capacity` bytes, against what
comes of delivering to one without bounds: as many bytes as there is room for, and
no failure but that of the sink, which is full or does not flush. -/
structure CutTo (capacity : Nat) (flushFails : Bool) (whole kept : Sink × Option Failure) :
    Prop where
  whole_succeeds : whole.2 = none
  bytes_eq : kept.1.bytes = whole.1.bytes.take capacity
  failure_eq : kept.2 =
    if whole.1.bytes.length ≤ capacity then (if flushFails then some (.io .flush) else none)
    else some (.io .full)

namespace Step

open Glyph

/-- What steps come to on a fresh sink without bounds. -/
theorem runAll_free (ss : List Step) (flushFails : Bool) :
    runAll (.start (.ofRoom none flushFails)) ss
      = (⟨(traceAll 0 ss).depth, pendingAfter false (traceAll 0 ss).glyphs,
          ⟨String.ofList (written false (traceAll 0 ss).glyphs), [], none, flushFails⟩⟩,
        (traceAll 0 ss).failure) := by
  rw [Formatter.runAll_eq_trace ss _ rfl]
  simp [Formatter.outcome, Formatter.wrote, Formatter.append, Formatter.start, Sink.ofRoom]

/-- **A layout that closes its scopes** is delivered as far as there is room. -/
theorem cutTo_deliver {ss : List Step} (hleads : Leads ss 0 0)
    (htrace : (traceAll 0 ss).failure = none) (capacity : Nat) (flushFails : Bool) :
    CutTo capacity flushFails (runAll (.start .unbounded) ss).deliver
      (runAll (.start (.ofRoom (some capacity) flushFails)) ss).deliver := by
  have hfree : (Formatter.start (.ofRoom none flushFails)).IsFree := ⟨rfl, rfl⟩
  have hmetered := Formatter.metered_runAll ss
  -- without bounds the run ends with all scopes closed
  have hdepth : (traceAll 0 ss).depth = 0 := by
    have hrun := hleads (.start (.ofRoom none flushFails)) rfl
    simpa [runAll_free, htrace] using hrun
  have hwhole : (runAll (.start .unbounded) ss).deliver
      = (⟨String.ofList (written false (traceAll 0 ss).glyphs), [], none, false⟩, none) := by
    rw [show Sink.unbounded = .ofRoom none false from rfl, runAll_free]
    simp [Outcome.deliver, Formatter.finish, htrace, hdepth]
  have hbytes : (runAll (.start (.ofRoom none flushFails)) ss).1.sink.bytes
      = (runAll (.start .unbounded) ss).deliver.1.bytes := by
    rw [runAll_free, hwhole]
    rfl
  have hbounded : Formatter.start (.ofRoom (some capacity) flushFails)
      = (Formatter.start (.ofRoom none flushFails)).within capacity := rfl
  refine ⟨by rw [hwhole], ?_, ?_⟩
  all_goals
    rw [hbounded, ← hbytes]
    by_cases hfits : (runAll (.start (.ofRoom none flushFails)) ss).1.sink.bytes.length ≤ capacity
  · rw [hmetered.fits capacity _ hfree hfits, List.take_of_length_le hfits]
    rfl
  · exact (hmetered.cutOff capacity _ hfree (Nat.zero_le _) (Nat.lt_of_not_le hfits)).2
  · rw [hmetered.fits capacity _ hfree hfits, if_pos hfits, runAll_free]
    simp [Outcome.deliver, Formatter.finish, Formatter.within, Sink.within, htrace, hdepth]
  · -- cut off the run fails, and it can only fail for want of room
    obtain ⟨hfailure, _⟩ :=
      hmetered.cutOff capacity _ hfree (Nat.zero_le _) (Nat.lt_of_not_le hfits)
    rcases hleads ((Formatter.start (.ofRoom none flushFails)).within capacity) rfl with
      ⟨hnone, _⟩ | hfull
    · exact absurd hnone hfailure
    · rw [if_neg hfits, Outcome.deliver, hfull]
      rfl

end Step

/-! ## §2. The layouts of exports. -/

namespace DocumentShape

theorem leads_opening (shape : DocumentShape) : Step.Leads shape.opening 0 1 := by
  have hsteady : Step.AllSteady [.text "From Cpp Require Import Parser.", .line,
      .text "", .line,
      .text "Local Open Scope string_scope.", .line,
      .text "Import ListNotations.", .line,
      .text "", .line,
      .text shape.header] := by
    simp [Step.AllSteady, Step.Steady]
  exact (hsteady.leads 0).append (Step.leads_indent 0)

theorem allSteady_entry (shape : DocumentShape) (e : Entry) : Step.AllSteady (shape.entry e) := by
  cases shape <;> simp [entry, Step.AllSteady, Step.Steady]

theorem allSteady_entries (shape : DocumentShape) (es : List Entry) :
    Step.AllSteady (es.flatMap shape.entry) := by
  induction es with
  | nil => trivial
  | cons e es ih =>
      rw [List.flatMap_cons]
      exact (allSteady_entry shape e).append ih

theorem leads_closing : Step.Leads closing 1 0 := by
  have hterminator : Step.AllSteady [.line, .text "nil."] := by
    simp [Step.AllSteady, Step.Steady]
  have hend : Step.AllSteady [.line, .line] := by simp [Step.AllSteady, Step.Steady]
  exact ((hterminator.leads 1).append (Step.leads_outdent 0)).append (hend.leads 0)

end DocumentShape

/-- A document opens one scope by hand, and closes it. -/
theorem Module.leads_layout (m : Module) (shape : DocumentShape) :
    Step.Leads (m.layout shape) 0 0 :=
  (DocumentShape.leads_opening shape).append
    (((DocumentShape.allSteady_entries shape m.entries).leads 1).append
      DocumentShape.leads_closing)

/-- A module is assembled as far as there is room. -/
theorem Module.cutTo_assemble (m : Module) (shape : DocumentShape) (capacity : Nat)
    (flushFails : Bool) :
    CutTo capacity flushFails (m.assemble shape .unbounded)
      (m.assemble shape (.ofRoom (some capacity) flushFails)) := by
  rw [assemble_eq_deliver, assemble_eq_deliver]
  exact Step.cutTo_deliver (m.leads_layout shape) (by rw [traceAll_layout]) capacity flushFails

theorem writeTerm_eq_deliver (term : String) (s : Sink) :
    writeTerm term s = (Step.runAll (.start s) [.text term, .line]).deliver := by
  rw [writeTerm]
  cases hrun : Step.runAll (.start s) [.text term, .line] with
  | mk f failure => cases failure <;> rfl

/-- A term is written as far as there is room. -/
theorem cutTo_writeTerm (term : String) (capacity : Nat) (flushFails : Bool) :
    CutTo capacity flushFails (writeTerm term .unbounded)
      (writeTerm term (.ofRoom (some capacity) flushFails)) := by
  have hsteady : Step.AllSteady [.text term, .line] := by simp [Step.AllSteady, Step.Steady]
  rw [writeTerm_eq_deliver, writeTerm_eq_deliver]
  exact Step.cutTo_deliver (hsteady.leads 0) rfl capacity flushFails

/-! ## §3. THE CAPACITY THEOREM. -/

/-- What comes of an export besides its log. -/
def Delivery.outcome (d : Delivery) : Sink × Option Failure := (d.sink, d.failure)

theorem outcome_exportDocument_of_error {u : SourceUnit} {o : ExportOptions}
    {render : Renderer} {log : List Event} {e : Failure}
    (h : u.exportedModule o render = (log, .error e)) (s : Sink) :
    (u.exportDocument o render s).outcome = (s, some e) := by
  rw [SourceUnit.exportDocument, h]
  rfl

theorem outcome_exportDocument_of_ok {u : SourceUnit} {o : ExportOptions}
    {render : Renderer} {log : List Event} {m : Module}
    (h : u.exportedModule o render = (log, .ok m)) (s : Sink) :
    (u.exportDocument o render s).outcome = m.assemble o.shape s := by
  rw [SourceUnit.exportDocument, h]
  dsimp only
  generalize m.assemble o.shape s = written
  rfl

theorem outcome_exportTerm_of_error {d : Decl} {u : SourceUnit} {render : Renderer} {e : Failure}
    (h : render d (Filter.definitions.verdict (d.context u) d) (d.context u).annotations
      = .error e) (s : Sink) :
    (d.exportTerm u render s).outcome = (s, some e) := by
  simp only [Decl.exportTerm, h]
  rfl

theorem outcome_exportTerm_of_ok {d : Decl} {u : SourceUnit} {render : Renderer} {r : Rendered}
    (h : render d (Filter.definitions.verdict (d.context u) d) (d.context u).annotations
      = .ok r) (s : Sink) :
    (d.exportTerm u render s).outcome = writeTerm r.term s := by
  simp only [Decl.exportTerm, h]
  generalize writeTerm r.term s = written
  rfl

/-- An export that writes nothing if it cannot make what it writes, and that is
otherwise delivered as far as there is room. -/
def KeepsWhatFits {α : Type} (capacity : Nat) (flushFails : Bool) (made : Except Failure α)
    (deliver : Sink → Sink × Option Failure) : Prop :=
  match made with
  | .error e => ∀ s, deliver s = (s, some e)
  | .ok _ =>
      CutTo capacity flushFails (deliver .unbounded) (deliver (.ofRoom (some capacity) flushFails))

/-- **A sink keeps what there is room for**, of every export and on sinks of every
capacity: a document that is not built and a term that is not rendered leave the sink
alone, and of all others it holds the first bytes; an export fails only if the sink
is full or does not flush, and that is what it says. -/
theorem exports_keep_what_fits (capacity : Nat) (flushFails : Bool) :
    (∀ (u : SourceUnit) (o : ExportOptions) (render : Renderer),
      KeepsWhatFits capacity flushFails (u.exportedModule o render).2
        fun s => (u.exportDocument o render s).outcome)
    ∧ (∀ (d : Decl) (u : SourceUnit) (render : Renderer),
      KeepsWhatFits capacity flushFails
        (render d (Filter.definitions.verdict (d.context u) d) (d.context u).annotations)
        fun s => (d.exportTerm u render s).outcome)
    ∧ ∀ s : Stmt,
      CutTo capacity flushFails (s.exportTerm .unbounded)
        (s.exportTerm (.ofRoom (some capacity) flushFails)) := by
  refine ⟨fun u o render => ?_, fun d u render => ?_, fun s => ?_⟩
  · cases hmodule : u.exportedModule o render with
    | mk log result =>
        cases result with
        | error e => exact outcome_exportDocument_of_error hmodule
        | ok m =>
            simp only [KeepsWhatFits, outcome_exportDocument_of_ok hmodule]
            exact m.cutTo_assemble o.shape capacity flushFails
  · cases hterm : render d (Filter.definitions.verdict (d.context u) d)
        (d.context u).annotations with
    | error e => exact outcome_exportTerm_of_error hterm
    | ok r =>
        simp only [KeepsWhatFits, outcome_exportTerm_of_ok hterm]
        exact cutTo_writeTerm r.term capacity flushFails
  · simp only [Stmt.exportTerm, Stmt.renderStmt_eq]
    exact cutTo_writeTerm _ capacity flushFails

end DeclExport
