/-
  DeclExport.Proofs.Layout.Glyphs
  ────────────────────────────────
  **LAYOUTS AS GLYPHS.**

  A glyph is a character together with the depth of the scope that it is laid
  out in.  What a layout comes to splits in two parts that know nothing of each
  other:

      steps  ──trace──▶  glyphs  ──written──▶  characters

  `trace` follows scopes and failures and never looks at a line; `written` puts
  the padding of a line in front of its first character and never looks at a
  scope.  On a sink without bounds a formatter does just that (`run_eq_trace`).
-/
import DeclExport.Layout.Formatter

namespace DeclExport

/-! ## §1. Glyphs and what is written for them. -/

/-- A character, and the depth that it is laid out at. -/
structure Glyph where
  depth : Nat
  char : Char
  deriving DecidableEq

namespace Glyph

/-- Characters laid out at one depth. -/
def row (depth : Nat) (cs : List Char) : List Glyph := cs.map (Glyph.mk depth)

/-- The padding in front of a character, if it is pending. -/
def padding (pending : Bool) (depth : Nat) : List Char :=
  if pending then List.replicate (depth * Formatter.indentWidth) ' ' else []

/-- What is written for glyphs, with padding pending or not. -/
def written : Bool → List Glyph → List Char
  | _, [] => []
  | pending, g :: gs =>
      if g.char = '\n' then '\n' :: written true gs
      else padding pending g.depth ++ g.char :: written false gs

/-- Whether padding is pending after glyphs. -/
def pendingAfter : Bool → List Glyph → Bool
  | pending, [] => pending
  | _, g :: gs => pendingAfter (g.char = '\n') gs

@[simp] theorem row_nil (d : Nat) : row d [] = [] := rfl

@[simp] theorem row_cons (d : Nat) (c : Char) (cs : List Char) :
    row d (c :: cs) = ⟨d, c⟩ :: row d cs := rfl

@[simp] theorem row_append (d : Nat) (xs ys : List Char) :
    row d (xs ++ ys) = row d xs ++ row d ys :=
  List.map_append

theorem pendingAfter_append (gs hs : List Glyph) :
    ∀ p, pendingAfter p (gs ++ hs) = pendingAfter (pendingAfter p gs) hs := by
  induction gs with
  | nil => intro p; rfl
  | cons g gs ih => intro p; exact ih _

theorem written_append (gs hs : List Glyph) :
    ∀ p, written p (gs ++ hs) = written p gs ++ written (pendingAfter p gs) hs := by
  induction gs with
  | nil => intro p; rfl
  | cons g gs ih =>
      intro p
      rw [List.cons_append, written, written]
      by_cases hg : g.char = '\n'
      · rw [if_pos hg, if_pos hg, ih, List.cons_append]
        simp [pendingAfter, hg]
      · rw [if_neg hg, if_neg hg, ih, List.append_assoc, List.cons_append]
        simp [pendingAfter, hg]

end Glyph

/-! ## §2. The trace of steps. -/

/-- What steps come to: their glyphs, the depth that they end at, and the failure
that they end with. -/
structure Trace where
  glyphs : List Glyph
  depth : Nat
  failure : Option Failure

namespace Trace

/-- Go on from the depth of a trace unless it has failed. -/
def andThen (t : Trace) (next : Nat → Trace) : Trace :=
  match t.failure with
  | some _ => t
  | none => { next t.depth with glyphs := t.glyphs ++ (next t.depth).glyphs }

/-- Close the scope that was opened at `depth` for the trace of its body. -/
def closeNested (depth : Nat) (t : Trace) : Trace :=
  if t.depth = depth + 1 then { t with depth }
  else { t with failure := some (.unbalanced (.leaked t.depth (depth + 1))) }

/-- The trace of closing the innermost scope. -/
def outdent : Nat → Trace
  | 0 => ⟨[], 0, some (.unbalanced .unopened)⟩
  | d + 1 => ⟨[], d, none⟩

end Trace

mutual

/-- The trace of a step that begins at a depth. -/
def Step.trace (depth : Nat) : Step → Trace
  | .text s => ⟨Glyph.row depth s.toList, depth, none⟩
  | .line => ⟨Glyph.row depth ['\n'], depth, none⟩
  | .nbsp => ⟨Glyph.row depth [' '], depth, none⟩
  | .indent => ⟨[], depth + 1, none⟩
  | .outdent => Trace.outdent depth
  | .nested body => Trace.closeNested depth (Step.traceAll (depth + 1) body)
  | .fail e => ⟨[], depth, some e⟩

/-- The trace of steps up to the first failure. -/
def Step.traceAll (depth : Nat) : List Step → Trace
  | [] => ⟨[], depth, none⟩
  | s :: ss => (s.trace depth).andThen fun d => Step.traceAll d ss

end

/-! ## §3. Formatters on sinks without bounds. -/

namespace Formatter

open Glyph

/-- The formatter with characters added to its sink. -/
def append (f : Formatter) (cs : List Char) : Formatter :=
  { f with sink := { f.sink with text := f.sink.text ++ String.ofList cs } }

/-- The formatter after glyphs are written. -/
def wrote (f : Formatter) (gs : List Glyph) : Formatter :=
  { f.append (written f.pending gs) with pending := pendingAfter f.pending gs }

/-- The outcome that a trace describes. -/
def outcome (f : Formatter) (t : Trace) : Outcome :=
  ({ f.wrote t.glyphs with depth := t.depth }, t.failure)

theorem append_nil (f : Formatter) : f.append [] = f := by
  simp [append]

theorem append_append (f : Formatter) (xs ys : List Char) :
    f.append (xs ++ ys) = (f.append xs).append ys := by
  simp [append, String.ofList_append, String.append_assoc]

theorem wrote_nil (f : Formatter) : f.wrote [] = f := by
  show { f.append [] with pending := f.pending } = f
  rw [append_nil]

theorem wrote_append (f : Formatter) (gs hs : List Glyph) :
    f.wrote (gs ++ hs) = (f.wrote gs).wrote hs := by
  show { f.append (written f.pending (gs ++ hs)) with
      pending := pendingAfter f.pending (gs ++ hs) } = _
  rw [written_append, append_append, pendingAfter_append]
  rfl

/-- A sink without bounds takes every character. -/
theorem write_of_unlimited {f : Formatter} (h : f.sink.room = none) (c : Char) :
    f.write c = (f.append [c], none) := by
  have hpush : f.sink.text.push c = f.sink.text ++ String.ofList [c] := by
    rw [String.push_eq_append, String.singleton_eq_ofList]
  simp only [write, Sink.write, h, append, hpush]

theorem writeMany_of_unlimited (c : Char) :
    ∀ (n : Nat) (f : Formatter), f.sink.room = none →
      writeMany c n f = (f.append (List.replicate n c), none)
  | 0, f, _ => by rw [writeMany, List.replicate_zero, append_nil]
  | n + 1, f, h => by
      rw [writeMany, write_of_unlimited h]
      show writeMany c n (f.append [c]) = _
      rw [writeMany_of_unlimited c n (f.append [c]) h, ← append_append,
        List.singleton_append, ← List.replicate_succ]

theorem pad_of_unlimited {f : Formatter} (h : f.sink.room = none) :
    f.pad = ({ f.append (padding f.pending f.depth) with pending := false }, none) := by
  cases hp : f.pending with
  | true =>
      rw [pad, if_pos hp, writeMany_of_unlimited ' ' _ f h]
      rfl
  | false =>
      rw [pad, if_neg (by simp [hp])]
      show (f, none) = ({ f.append [] with pending := false }, none)
      rw [append_nil, ← hp]

/-- One character is laid out as one glyph. -/
theorem put_of_unlimited {f : Formatter} (h : f.sink.room = none) (c : Char) :
    f.put c = (f.wrote [⟨f.depth, c⟩], none) := by
  by_cases hc : c = '\n'
  · rw [put, if_pos hc, line, write_of_unlimited h, hc]
    rfl
  · rw [put, if_neg hc, pad_of_unlimited h]
    show write { f.append (padding f.pending f.depth) with pending := false } c = _
    have hwritten : written f.pending [⟨f.depth, c⟩] = padding f.pending f.depth ++ [c] := by
      simp [written, hc]
    have hpending : pendingAfter f.pending [⟨f.depth, c⟩] = false := by
      simp [pendingAfter, hc]
    rw [write_of_unlimited (f := { f.append (padding f.pending f.depth) with
        pending := false }) h, wrote, hwritten, hpending, append_append]
    rfl

theorem puts_of_unlimited (cs : List Char) :
    ∀ f : Formatter, f.sink.room = none → f.puts cs = (f.wrote (row f.depth cs), none) := by
  induction cs with
  | nil => intro f _; rw [puts, row_nil, wrote_nil]
  | cons c cs ih =>
      intro f h
      rw [puts, put_of_unlimited h]
      show (f.wrote [⟨f.depth, c⟩]).puts cs = _
      rw [ih (f.wrote [⟨f.depth, c⟩]) h]
      show _ = (f.wrote ([⟨f.depth, c⟩] ++ row f.depth cs), none)
      rw [wrote_append]
      rfl

/-- Closing a scope, seen on the trace of its body. -/
theorem closeNested_outcome (depth : Nat) (f : Formatter) (t : Trace) :
    closeNested depth (f.outcome t) = f.outcome (t.closeNested depth) := by
  by_cases ht : t.depth = depth + 1
  · simp [closeNested, outcome, Trace.closeNested, ht]
  · simp [closeNested, outcome, Trace.closeNested, ht]

mutual

/-- **A step does what its trace says.** -/
theorem run_eq_trace : ∀ (s : Step) (f : Formatter), f.sink.room = none →
    s.run f = f.outcome (s.trace f.depth)
  | .text s, f, h => puts_of_unlimited s.toList f h
  | .line, f, h => by
      show f.line = _
      rw [show f.line = f.put '\n' from rfl, put_of_unlimited h]
      rfl
  | .nbsp, f, h => puts_of_unlimited [' '] f h
  | .indent, f, _ => by
      show (f.indent, none) = ({ f.wrote [] with depth := f.depth + 1 }, none)
      rw [wrote_nil]
      rfl
  | .outdent, f, _ => by
      obtain ⟨depth, pending, sink⟩ := f
      cases depth with
      | zero => simp [Step.run, Formatter.outdent, Step.trace, Trace.outdent, outcome, wrote_nil]
      | succ d => simp [Step.run, Formatter.outdent, Step.trace, Trace.outdent, outcome, wrote_nil]
  | .nested body, f, h => by
      -- the depth that the body ends at decides whether the scope closes
      rw [Step.run, runAll_eq_trace body f.indent h]
      show closeNested f.depth (f.outcome (Step.traceAll (f.depth + 1) body)) = _
      rw [closeNested_outcome, Step.trace]
  | .fail e, f, _ => by
      show (f, some e) = ({ f.wrote [] with depth := f.depth }, some e)
      rw [wrote_nil]

/-- Steps do what their trace says. -/
theorem runAll_eq_trace : ∀ (ss : List Step) (f : Formatter), f.sink.room = none →
    Step.runAll f ss = f.outcome (Step.traceAll f.depth ss)
  | [], f, _ => by
      show (f, none) = ({ f.wrote [] with depth := f.depth }, none)
      rw [wrote_nil]
  | s :: ss, f, h => by
      rw [Step.runAll, run_eq_trace s f h, Step.traceAll]
      cases hs : (s.trace f.depth).failure with
      | some e => simp [outcome, Outcome.andThen, Trace.andThen, hs]
      | none =>
          -- the rest begins at the depth that the step ended at, on the same sink
          have hrest := runAll_eq_trace ss
            { f.wrote (s.trace f.depth).glyphs with depth := (s.trace f.depth).depth } h
          simp only [outcome, Outcome.andThen, Trace.andThen, hs]
          rw [hrest, wrote_append]
          rfl

end

end Formatter

/-! ## §4. Closed layouts. -/

namespace Trace

theorem andThen_assoc (t : Trace) (f g : Nat → Trace) :
    (t.andThen f).andThen g = t.andThen fun d => (f d).andThen g := by
  obtain ⟨gs, d, failure⟩ := t
  cases failure with
  | some e => rfl
  | none =>
      cases hf : (f d).failure with
      | some e => simp [andThen, hf]
      | none => simp [andThen, hf, List.append_assoc]

end Trace

namespace Step

open Glyph

theorem traceAll_append (xs ys : List Step) :
    ∀ d, traceAll d (xs ++ ys) = (traceAll d xs).andThen fun d => traceAll d ys := by
  induction xs with
  | nil => intro d; rfl
  | cons s xs ih =>
      intro d
      rw [List.cons_append, traceAll, traceAll, Trace.andThen_assoc]
      congr 1
      funext d
      exact ih d

/-- Steps that never fail and end at the depth that they begin at. -/
def Closed (steps : List Step) : Prop :=
  ∀ d, (traceAll d steps).depth = d ∧ (traceAll d steps).failure = none

/-- The glyphs of steps. -/
def glyphs (depth : Nat) (steps : List Step) : List Glyph := (traceAll depth steps).glyphs

theorem Closed.trace_eq {steps : List Step} (h : Closed steps) (d : Nat) :
    traceAll d steps = ⟨glyphs d steps, d, none⟩ := by
  obtain ⟨hdepth, hfailure⟩ := h d
  cases ht : traceAll d steps
  simp_all [glyphs]

theorem Closed.append {xs ys : List Step} (hxs : Closed xs) (hys : Closed ys) :
    Closed (xs ++ ys) := by
  intro d
  rw [traceAll_append, hxs.trace_eq d]
  exact hys d

theorem glyphs_append {xs : List Step} (hxs : Closed xs) (ys : List Step) (d : Nat) :
    glyphs d (xs ++ ys) = glyphs d xs ++ glyphs d ys := by
  show (traceAll d (xs ++ ys)).glyphs = _
  rw [traceAll_append, hxs.trace_eq d]
  rfl

theorem closed_nil : Closed [] := fun _ => ⟨rfl, rfl⟩

theorem closed_text (s : String) : Closed [.text s] := fun _ => ⟨rfl, rfl⟩

theorem closed_line : Closed [.line] := fun _ => ⟨rfl, rfl⟩

theorem closed_nbsp : Closed [.nbsp] := fun _ => ⟨rfl, rfl⟩

theorem trace_nested {body : List Step} (hbody : Closed body) (d : Nat) :
    (Step.nested body).trace d = ⟨glyphs (d + 1) body, d, none⟩ := by
  rw [trace, hbody.trace_eq (d + 1)]
  simp [Trace.closeNested]

theorem closed_nested {body : List Step} (hbody : Closed body) : Closed [.nested body] := by
  intro d
  rw [traceAll, trace_nested hbody]
  exact ⟨rfl, rfl⟩

theorem Closed.text_cons {steps : List Step} (h : Closed steps) (s : String) :
    Closed (.text s :: steps) := (closed_text s).append h

theorem Closed.line_cons {steps : List Step} (h : Closed steps) :
    Closed (.line :: steps) := closed_line.append h

theorem Closed.nbsp_cons {steps : List Step} (h : Closed steps) :
    Closed (.nbsp :: steps) := closed_nbsp.append h

theorem Closed.nested_cons {body steps : List Step} (h : Closed steps) (hbody : Closed body) :
    Closed (.nested body :: steps) := (closed_nested hbody).append h

@[simp] theorem glyphs_nil (d : Nat) : glyphs d [] = [] := rfl

@[simp] theorem glyphs_text_cons (s : String) (steps : List Step) (d : Nat) :
    glyphs d (.text s :: steps) = row d s.toList ++ glyphs d steps := rfl

@[simp] theorem glyphs_line_cons (steps : List Step) (d : Nat) :
    glyphs d (.line :: steps) = ⟨d, '\n'⟩ :: glyphs d steps := rfl

@[simp] theorem glyphs_nbsp_cons (steps : List Step) (d : Nat) :
    glyphs d (.nbsp :: steps) = ⟨d, ' '⟩ :: glyphs d steps := rfl

theorem glyphs_nested_cons {body : List Step} (hbody : Closed body) (steps : List Step)
    (d : Nat) : glyphs d (.nested body :: steps) = glyphs (d + 1) body ++ glyphs d steps := by
  rw [← List.singleton_append, glyphs_append (closed_nested hbody)]
  congr 1
  show (traceAll d [.nested body]).glyphs = _
  rw [traceAll, trace_nested hbody]
  show _ ++ [] = _
  rw [List.append_nil]

/-- **The text of a closed layout** is what is written for its glyphs. -/
theorem toText_of_closed {steps : List Step} (h : Closed steps) :
    toText steps = .ok (String.ofList (written false (glyphs 0 steps))) := by
  have hrun : runAll (.start .unbounded) steps
      = ((Formatter.start .unbounded).outcome (traceAll 0 steps)) :=
    Formatter.runAll_eq_trace steps _ rfl
  rw [toText, hrun, h.trace_eq 0]
  simp [Formatter.outcome, Formatter.finish, Formatter.wrote, Formatter.append,
    Formatter.start, Sink.unbounded]

end Step

end DeclExport
