/-
  DeclExport.Proofs.Layout.Splicing
  ────────────────────────────────
  **A LAYOUT INSIDE ANOTHER.**

  A layout that was written to a text is laid out again where that text is
  spliced in.  Its own padding is then a run of spaces at the head of a line,
  and more padding is written in front of them, so the two add up:

      written (row k (written gs))  =  written (gs, every glyph k scopes deeper)

  as long as padding is pending on both sides or on neither
  (`written_row_written`).  And steps that come through do the same k scopes
  deeper (`traceAll_deeper`).  So a text in a document can be read as if its
  layout stood there itself.

  Where padding is pending at the splice alone, it is written for the depth of the
  splice, and in place for the depth of the first character.  So the two are the same
  exactly if the layout begins with a line break, or outside of all of its own scopes
  (`runAll_eq_text_iff`).
-/
import DeclExport.Proofs.Layout.Reading

namespace DeclExport

namespace Glyph

/-! ## §1. Glyphs moved to deeper scopes. -/

/-- The same character, `k` scopes deeper. -/
def deeper (k : Nat) (g : Glyph) : Glyph := { g with depth := g.depth + k }

@[simp] theorem map_deeper_row (k d : Nat) (cs : List Char) :
    (row d cs).map (deeper k) = row (d + k) cs := by
  simp [row, deeper]

/-! ## §2. Texts that are laid out alike. -/

/-- Glyphs that are written alike, whatever stands in front of them and behind. -/
def Alike (gs hs : List Glyph) : Prop :=
  ∀ p R, written p (gs ++ R) = written p (hs ++ R)

theorem Alike.refl (gs : List Glyph) : Alike gs gs := fun _ _ => rfl

theorem Alike.append {gs gs' hs hs' : List Glyph} (h : Alike gs gs') (h' : Alike hs hs') :
    Alike (gs ++ hs) (gs' ++ hs') := by
  intro p R
  calc written p ((gs ++ hs) ++ R)
      = written p (gs' ++ (hs ++ R)) := by rw [List.append_assoc, h p]
    _ = written p (gs' ++ (hs' ++ R)) := by rw [written_append, h' _ R, ← written_append]
    _ = written p ((gs' ++ hs') ++ R) := by rw [List.append_assoc]

/-- Alike glyphs are written alike on their own. -/
theorem Alike.written_eq {gs hs : List Glyph} (h : Alike gs hs) (p : Bool) :
    written p gs = written p hs := by
  simpa using h p []

/-! ## §3. Texts spliced into a layout. -/

/-- Padding that is laid out again adds up. -/
theorem written_row_padding {c : Char} (hc : c ≠ '\n') (p : Bool) (k d : Nat)
    (R : List Glyph) :
    written p (row k (padding p d) ++ (⟨k, c⟩ :: R))
      = padding p (d + k) ++ c :: written false R := by
  cases p with
  | false => exact written_cons_of_ne hc false k R
  | true =>
      show written true (row k (List.replicate (d * Formatter.indentWidth) ' ') ++ _)
        = List.replicate ((d + k) * Formatter.indentWidth) ' ' ++ _
      cases hn : d * Formatter.indentWidth with
      | zero =>
          have hdk : (d + k) * Formatter.indentWidth = k * Formatter.indentWidth := by
            rw [Nat.add_mul, hn, Nat.zero_add]
          rw [hdk]
          exact written_cons_of_ne hc true k R
      | succ n =>
          -- the first space begins the line, and the padding of the splice is
          -- written in front of it
          have hdk : (d + k) * Formatter.indentWidth = k * Formatter.indentWidth + (n + 1) := by
            rw [Nat.add_mul, hn, Nat.add_comm]
          have hspaces : '\n' ∉ ' ' :: List.replicate n ' ' := by
            simp [List.mem_replicate]
          rw [List.replicate_succ, written_word hspaces, written_cons_of_ne hc, hdk,
            List.replicate_add, List.replicate_succ]
          simp [padding]

/-- **A written text that is laid out again**, with padding pending inside and
outside or neither. -/
theorem written_row_written (k : Nat) (gs : List Glyph) :
    ∀ p R, written p (row k (written p gs) ++ R) = written p (gs.map (deeper k) ++ R) := by
  induction gs with
  | nil => intro p R; rfl
  | cons g gs ih =>
      obtain ⟨d, c⟩ := g
      intro p R
      -- padding is pending behind a line feed on both sides, and behind no other
      by_cases hc : c = '\n'
      · subst hc
        show '\n' :: written true (row k (written true gs) ++ R)
          = '\n' :: written true (gs.map (deeper k) ++ R)
        rw [ih]
      · rw [written_cons_of_ne hc, row_append, row_cons, List.append_assoc, List.cons_append,
          written_row_padding hc, ih]
        exact (written_cons_of_ne hc p (d + k) _).symm

theorem padding_zero (p : Bool) : padding p 0 = [] := by
  cases p <;> simp [padding]

/-- Outside of all scopes, a text is written as it is. -/
theorem written_row_zero (cs : List Char) : ∀ p, written p (row 0 cs) = cs := by
  induction cs with
  | nil => intro p; rfl
  | cons c cs ih =>
      intro p
      by_cases hc : c = '\n'
      · rw [hc, row_cons, written_newline, ih]
      · rw [row_cons, written_cons_of_ne hc, ih, padding_zero, List.nil_append]

/-- At depth zero no padding shows, so it does not matter whether it is pending. -/
theorem written_of_begins {c : Char} {gs : List Glyph} (p : Bool) :
    written p (⟨0, c⟩ :: gs) = written false (⟨0, c⟩ :: gs) := by
  rw [written, written, padding_zero]
  rfl

/-- **A text that begins at depth zero is spliced in as its glyphs**, `k` scopes
deeper, whatever stands in front of it and behind. -/
theorem alike_spliced (k : Nat) {c : Char} {gs : List Glyph} :
    Alike (row k (written false (⟨0, c⟩ :: gs))) ((⟨0, c⟩ :: gs).map (deeper k)) := by
  intro p R
  rw [← written_of_begins p, written_row_written]

end Glyph

/-! ## §4. Steps that run in a deeper scope. -/

namespace Trace

/-- The trace of the same steps, `k` scopes deeper. -/
def deeper (k : Nat) (t : Trace) : Trace :=
  ⟨t.glyphs.map (Glyph.deeper k), t.depth + k, t.failure⟩

theorem failure_of_andThen {t : Trace} {next : Nat → Trace}
    (h : (t.andThen next).failure = none) :
    t.failure = none ∧ (next t.depth).failure = none := by
  obtain ⟨gs, d, failure⟩ := t
  cases failure with
  | some e => exact absurd h (by simp [andThen])
  | none => exact ⟨rfl, h⟩

theorem andThen_deeper {t : Trace} {next next' : Nat → Trace} {k : Nat}
    (ht : t.failure = none) (hnext : next' (t.depth + k) = (next t.depth).deeper k) :
    (t.deeper k).andThen next' = (t.andThen next).deeper k := by
  obtain ⟨gs, d, failure⟩ := t
  obtain rfl : failure = none := ht
  have hnext' : next' (d + k) = (next d).deeper k := hnext
  simp [andThen, deeper, hnext']

theorem closeNested_deeper {d k : Nat} {t : Trace}
    (h : (t.closeNested d).failure = none) :
    t.failure = none ∧ (t.deeper k).closeNested (d + k) = (t.closeNested d).deeper k := by
  obtain ⟨gs, depth, failure⟩ := t
  by_cases hdepth : depth = d + 1
  · subst hdepth
    simp only [closeNested, if_true] at h
    obtain rfl : failure = none := h
    have hclosed : d + 1 + k = d + k + 1 := by omega
    simp [closeNested, deeper, hclosed]
  · -- a scope that is left at another depth is a failure
    simp [closeNested, hdepth] at h

end Trace

namespace Step

mutual

/-- A step that comes through does the same in a deeper scope. -/
theorem trace_deeper (k : Nat) : ∀ (s : Step) (d : Nat), (s.trace d).failure = none →
    s.trace (d + k) = (s.trace d).deeper k
  | .text s, d, _ => by simp [trace, Trace.deeper]
  | .line, d, _ => by simp [trace, Trace.deeper, Glyph.deeper]
  | .nbsp, d, _ => by simp [trace, Trace.deeper, Glyph.deeper]
  | .indent, d, _ => by
      have hdepth : d + k + 1 = d + 1 + k := by omega
      simp [trace, Trace.deeper, hdepth]
  | .outdent, 0, h => by simp [trace, Trace.outdent] at h
  | .outdent, d + 1, _ => by
      have hdepth : d + 1 + k = d + k + 1 := by omega
      rw [hdepth]
      rfl
  | .nested body, d, h => by
      obtain ⟨hbody, hclose⟩ := Trace.closeNested_deeper (k := k) h
      have hdepth : d + k + 1 = d + 1 + k := by omega
      rw [trace, trace, hdepth, traceAll_deeper k body (d + 1) hbody, hclose]
  | .fail e, d, h => by simp [trace] at h

/-- **Steps that come through do the same in a deeper scope.** -/
theorem traceAll_deeper (k : Nat) : ∀ (ss : List Step) (d : Nat),
    (traceAll d ss).failure = none → traceAll (d + k) ss = (traceAll d ss).deeper k
  | [], d, _ => rfl
  | s :: ss, d, h => by
      obtain ⟨hs, hss⟩ := Trace.failure_of_andThen h
      rw [traceAll, traceAll, trace_deeper k s d hs]
      exact Trace.andThen_deeper hs (traceAll_deeper k ss _ hss)

end

/-- The glyphs of a closed layout in a deeper scope. -/
theorem Closed.glyphs_deeper {steps : List Step} (h : Closed steps) (d k : Nat) :
    glyphs (d + k) steps = (glyphs d steps).map (Glyph.deeper k) :=
  congrArg Trace.glyphs (traceAll_deeper k steps d (h d).2)

end Step

/-! ## §5. THE SPLICING THEOREM. -/

namespace Glyph

/-- What is pending behind a text that is laid out again is what was pending behind its
glyphs. -/
theorem pendingAfter_row_written (k : Nat) (gs : List Glyph) :
    ∀ q p, pendingAfter p (row k (written q gs)) = pendingAfter p gs := by
  induction gs with
  | nil => intro q p; rfl
  | cons g gs ih =>
      intro q p
      rw [written]
      by_cases hg : g.char = '\n'
      · rw [if_pos hg, row_cons, pendingAfter, pendingAfter, ih, hg]
      · rw [if_neg hg, row_append, row_cons, pendingAfter_append, pendingAfter, pendingAfter, ih]

theorem pendingAfter_map_deeper (k : Nat) (gs : List Glyph) :
    ∀ p, pendingAfter p (gs.map (deeper k)) = pendingAfter p gs := by
  induction gs with
  | nil => intro p; rfl
  | cons g gs ih => intro p; exact ih _

/-- The first glyph is a line feed, or it stands outside of all scopes. -/
def BeginsFlush (gs : List Glyph) : Prop := ∀ g ∈ gs.head?, g.char = '\n' ∨ g.depth = 0

/-- **Padding is written once**, in front of a spliced text or in front of its glyphs in
their place: the two are the same if none is pending, or if the text begins flush. -/
theorem written_row_written_iff (k : Nat) (p : Bool) (gs : List Glyph) :
    written p (row k (written false gs)) = written p (gs.map (deeper k))
      ↔ p = false ∨ BeginsFlush gs := by
  cases p with
  | false => simpa using written_row_written k gs false []
  | true =>
      match gs with
      | [] => simp [BeginsFlush, written]
      | ⟨d, c⟩ :: gs =>
          have hrest : ∀ p, written p (row k (written p gs)) = written p (gs.map (deeper k)) := by
            intro p
            simpa using written_row_written k gs p []
          rw [written_false_cons, row_cons, List.map_cons]
          show written true (⟨k, c⟩ :: _) = written true (⟨d + k, c⟩ :: _) ↔ _
          by_cases hc : c = '\n'
          · simp [hc, written_newline, hrest, BeginsFlush]
          · -- the rest is the same, so it is the padding in front that decides
            have hpadding : padding true k = padding true (d + k) ↔ d = 0 := by
              simp only [padding, if_true, List.replicate_left_inj, Formatter.indentWidth]
              omega
            rw [written_cons_of_ne hc, written_cons_of_ne hc]
            simp [hc, hrest, hpadding, BeginsFlush]

end Glyph

theorem Formatter.wrote_eq_iff {f : Formatter} {gs hs : List Glyph} :
    f.wrote gs = f.wrote hs ↔ Glyph.written f.pending gs = Glyph.written f.pending hs
      ∧ Glyph.pendingAfter f.pending gs = Glyph.pendingAfter f.pending hs := by
  simp [Formatter.wrote, Formatter.append, String.ofList_inj, and_comm]

namespace Step

open Glyph

/-- The trace of steps that come to a text on their own. -/
theorem traceAll_of_toText {steps : List Step} {s : String} (h : toText steps = .ok s) :
    ∃ gs, traceAll 0 steps = ⟨gs, 0, none⟩ ∧ s = String.ofList (written false gs) := by
  have hrun : runAll (.start .unbounded) steps
      = (Formatter.start .unbounded).outcome (traceAll 0 steps) :=
    Formatter.runAll_eq_trace steps _ rfl
  rw [toText, hrun] at h
  generalize traceAll 0 steps = t at h
  obtain ⟨gs, depth, failure⟩ := t
  cases failure with
  | some e => simp [Formatter.outcome] at h
  | none =>
      by_cases hdepth : depth = 0
      · subst hdepth
        refine ⟨gs, rfl, ?_⟩
        simpa [Formatter.outcome, Formatter.finish, Formatter.wrote, Formatter.append,
          Formatter.start, Sink.unbounded] using h.symm
      · -- scopes that are left open are no text
        simp [Formatter.outcome, Formatter.finish, hdepth] at h

/-- Such steps come through in every place, at the depth of that place. -/
theorem runAll_of_traceAll {steps : List Step} {gs : List Glyph}
    (h : traceAll 0 steps = ⟨gs, 0, none⟩) {f : Formatter} (hf : f.sink.room = none) :
    runAll f steps = (f.wrote (gs.map (deeper f.depth)), none) := by
  have hdeeper : traceAll (0 + f.depth) steps = (traceAll 0 steps).deeper f.depth :=
    traceAll_deeper f.depth steps 0 (by rw [h])
  rw [Nat.zero_add, h] at hdeeper
  rw [Formatter.runAll_eq_trace steps f hf, hdeeper]
  simp [Formatter.outcome, Trace.deeper, Formatter.wrote, Formatter.append]

/-- **A fragment is spliced in as it is laid out in place.**  Steps that come to a text
on their own come through on every formatter without a bound, at every depth.  If no
padding is pending there, or what they write first is a line break or stands outside of
all scopes that they open, the formatter is left exactly as by writing their text: with
the same characters, at the same depth, with padding pending or not.  Otherwise it is
not. -/
theorem runAll_eq_text_iff {steps : List Step} {s : String} (h : toText steps = .ok s)
    {f : Formatter} (hf : f.sink.room = none) :
    (runAll f steps).2 = none
      ∧ (runAll f steps = f.text s
        ↔ f.pending = false ∨ BeginsFlush (traceAll 0 steps).glyphs) := by
  obtain ⟨gs, htrace, rfl⟩ := traceAll_of_toText h
  have hspliced : f.text (String.ofList (written false gs))
      = (f.wrote (row f.depth (written false gs)), none) := by
    rw [Formatter.text, String.toList_ofList, Formatter.puts_of_unlimited _ f hf]
  have hpending : pendingAfter f.pending (row f.depth (written false gs))
      = pendingAfter f.pending (gs.map (deeper f.depth)) := by
    rw [pendingAfter_row_written, pendingAfter_map_deeper]
  rw [runAll_of_traceAll htrace hf, hspliced, htrace]
  refine ⟨rfl, ?_⟩
  calc (f.wrote (gs.map (deeper f.depth)), none)
        = ((f.wrote (row f.depth (written false gs)), none) : Outcome)
      ↔ written f.pending (gs.map (deeper f.depth))
          = written f.pending (row f.depth (written false gs)) := by
        rw [Prod.mk.injEq, Formatter.wrote_eq_iff]
        simp [hpending]
    _ ↔ f.pending = false ∨ BeginsFlush gs := by
        rw [eq_comm, written_row_written_iff]

/-- A fragment with an empty line in a scope of its own. -/
def fragment : List Step := [.text "(", .nested [.line, .text "x\n\ny"], .text ")"]

/-- At the head of a line in a scope, the fragment and its text are the same. -/
theorem runAll_eq_text_of_fragment :
    toText fragment = .ok "(\n  x\n\n  y)"
      ∧ runAll ⟨1, true, .unbounded⟩ fragment
        = Formatter.text ⟨1, true, .unbounded⟩ "(\n  x\n\n  y)" := by
  have htext : toText fragment = .ok "(\n  x\n\n  y)" := rfl
  have hflush : BeginsFlush (traceAll 0 fragment).glyphs := by
    simp [fragment, traceAll, trace, Trace.andThen, BeginsFlush, row]
  exact ⟨htext, (runAll_eq_text_iff htext rfl).2.mpr (.inr hflush)⟩

end Step

end DeclExport
