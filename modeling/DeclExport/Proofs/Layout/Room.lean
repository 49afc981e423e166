/-
  DeclExport.Proofs.Layout.Room
  ────────────────────────────────
  **LAYOUTS THAT FIT.**

  The room of a sink decides whether a layout comes through, but not what it is:
  steps that succeed on a bounded sink do the same with the bound taken away
  (`lifts_runAll`).  So what they write is what their trace says, on every sink
  that it fits (`runAll_ok`).
-/
import DeclExport.Proofs.Layout.Composition
import DeclExport.Proofs.Layout.Glyphs

namespace DeclExport

namespace Formatter

open Glyph

/-- The formatter with the bound on its sink taken away. -/
def unlimited (f : Formatter) : Formatter := { f with sink := { f.sink with room := none } }

/-- An operation that does the same on a sink without bounds if it succeeds. -/
def Lifts (op : Formatter → Outcome) : Prop :=
  ∀ f g : Formatter, op f = (g, none) → op f.unlimited = (g.unlimited, none)

/-! ## §1. Characters. -/

theorem Lifts.andThen {op next : Formatter → Outcome} (hop : Lifts op) (hnext : Lifts next) :
    Lifts fun f => (op f).andThen next := by
  intro f g h
  obtain ⟨f', hf, hg⟩ := Outcome.andThen_eq_ok h
  show (op f.unlimited).andThen next = _
  rw [hop f f' hf]
  exact hnext f' g hg

/-- An operation that always succeeds, and never looks at its sink. -/
theorem lifts_of_commutes (move : Formatter → Formatter)
    (h : ∀ f, move f.unlimited = (move f).unlimited) : Lifts fun f => (move f, none) := by
  intro f g hg
  obtain rfl := (Prod.mk.inj hg).1
  exact congrArg (·, none) (h f)

theorem lifts_write (c : Char) : Lifts (write · c) := by
  intro f g h
  cases hroom : f.sink.room with
  | none =>
      simp only [write, Sink.write, hroom] at h
      obtain rfl := (Prod.mk.inj h).1
      rfl
  | some n =>
      by_cases hfits : c.utf8Size ≤ n
      · simp only [write, Sink.write, hroom, if_pos hfits] at h
        obtain rfl := (Prod.mk.inj h).1
        rfl
      · -- a character that does not fit is a failure
        simp only [write, Sink.write, hroom, if_neg hfits] at h
        exact absurd (Prod.mk.inj h).2 (by simp)

theorem composes_lifts : Composes Lifts where
  write := lifts_write
  mark pending := lifts_of_commutes (fun f => { f with pending }) fun _ => rfl
  andThen := Lifts.andThen
  chosen hop := fun f => hop f.depth f.pending f

/-! ## §2. Steps. -/

theorem lifts_outdent : Lifts outdent := by
  intro f g h
  obtain ⟨depth, pending, sink⟩ := f
  cases depth with
  | zero => exact absurd (congrArg Prod.snd h) (by simp [outdent])
  | succ d =>
      obtain rfl := (Prod.mk.inj h).1
      rfl

/-- A scope that is closed in order was run and closed. -/
theorem closeNested_eq_ok {depth : Nat} {o : Outcome} {g : Formatter}
    (h : closeNested depth o = (g, none)) :
    ∃ f : Formatter, o = (f, none) ∧ f.depth = depth + 1 ∧ g = { f with depth } := by
  obtain ⟨f, failure⟩ := o
  by_cases hdepth : f.depth = depth + 1
  · rw [closeNested_of_level hdepth] at h
    obtain ⟨hg, hfailure⟩ := Prod.mk.inj h
    exact ⟨f, congrArg (f, ·) hfailure, hdepth, hg.symm⟩
  · rw [closeNested_of_ne hdepth] at h
    exact absurd (congrArg Prod.snd h) (by simp)

theorem Lifts.nested {op : Formatter → Outcome} (hop : Lifts op) :
    Lifts fun f => closeNested f.depth (op f.indent) := by
  intro f g h
  obtain ⟨f', hbody, hdepth, rfl⟩ := closeNested_eq_ok h
  have hlift : op f.indent.unlimited = (f'.unlimited, none) := hop _ _ hbody
  show closeNested f.depth (op f.indent.unlimited) = _
  rw [hlift]
  exact closeNested_of_level hdepth

theorem inherits_lifts : Inherits Lifts (fun _ => True) fun _ => True where
  toComposes := composes_lifts
  head := id
  tail := id
  body := id
  indent _ := lifts_of_commutes indent fun _ => rfl
  outdent _ := lifts_outdent
  nested := Lifts.nested
  fail _ := fun _ _ h => absurd (congrArg Prod.snd h) nofun

/-- **Steps that succeed do the same without a bound.** -/
theorem lifts_runAll (ss : List Step) : Lifts fun f => Step.runAll f ss :=
  inherits_lifts.runAll ss trivial

/-- **What steps write that succeed** is what their trace says, on every sink. -/
theorem runAll_ok {f g : Formatter} {ss : List Step} (h : Step.runAll f ss = (g, none)) :
    g.sink.text = f.sink.text
      ++ String.ofList (written f.pending (Step.traceAll f.depth ss).glyphs) := by
  -- the trace speaks of unlimited sinks, so the bound is taken away first
  have hlift : Step.runAll f.unlimited ss = (g.unlimited, none) := lifts_runAll ss f g h
  rw [runAll_eq_trace ss f.unlimited rfl] at hlift
  exact (congrArg (fun g => g.sink.text) (Prod.mk.inj hlift).1).symm

end Formatter

end DeclExport
