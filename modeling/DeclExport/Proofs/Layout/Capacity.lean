/-
  DeclExport.Proofs.Layout.Capacity
  ────────────────────────────────
  **LAYOUTS THAT DO NOT FIT.**

  A layout is run twice: on a sink without bounds, and on one with room for
  `capacity` bytes in all.  Up to the byte that no longer fits the two runs are
  one run.  There the bounded one fails, in the middle of a padding, a literal or
  a character, and whatever closes the scopes around it writes nothing more:

      bytes that are kept  =  the first `capacity` of those written without bounds

  That is `Metered`.  It holds of a character, is kept by going on, and so holds
  of all steps (`metered_runAll`).

  Which failure comes out is another matter, since closing a scope may replace
  one.  It does not where bodies neither open nor close scopes by hand: those end
  where they began, failed or not, so no scope is left open (`staysLevel_runAll`).
-/
import DeclExport.Proofs.Layout.Room

namespace DeclExport

/-! ## §1. Bytes. -/

/-- The bytes of characters. -/
def utf8 (cs : List Char) : List UInt8 := cs.flatMap String.utf8EncodeChar

@[simp] theorem utf8_append (xs ys : List Char) : utf8 (xs ++ ys) = utf8 xs ++ utf8 ys :=
  List.flatMap_append

theorem length_utf8_singleton (c : Char) : (utf8 [c]).length = c.utf8Size := by
  simp [utf8, String.length_utf8EncodeChar]

namespace Sink

/-- No bound, and nothing that did not fit. -/
def IsFree (s : Sink) : Prop := s.room = none ∧ s.cut = []

/-- A sink as it would be with room for `capacity` bytes in all. -/
def within (capacity : Nat) (s : Sink) : Sink :=
  { s with room := some (capacity - s.bytes.length) }

theorem IsFree.bytes_eq {s : Sink} (h : s.IsFree) : s.bytes = utf8 s.text.toList := by
  rw [bytes, h.2, List.append_nil]
  rfl

/-- A sink without bounds takes every character. -/
theorem write_of_isFree {s : Sink} (h : s.IsFree) (c : Char) :
    s.write c = ({ s with text := s.text.push c }, true)
      ∧ IsFree { s with text := s.text.push c }
      ∧ bytes { s with text := s.text.push c } = s.bytes ++ utf8 [c] := by
  have hfree : IsFree { s with text := s.text.push c } := h
  refine ⟨by rw [write, h.1], hfree, ?_⟩
  rw [hfree.bytes_eq, h.bytes_eq, ← utf8_append]
  simp

/-- A character that there is room for is taken as it is without bounds. -/
theorem write_within_of_fits {s : Sink} {c : Char} {capacity : Nat} (h : s.IsFree)
    (hfits : (bytes { s with text := s.text.push c }).length ≤ capacity) :
    (s.within capacity).write c = (within capacity { s with text := s.text.push c }, true) := by
  have hbytes := (write_of_isFree h c).2.2
  have hroom : capacity - (bytes { s with text := s.text.push c }).length
      = capacity - s.bytes.length - c.utf8Size := by
    rw [hbytes, List.length_append, length_utf8_singleton, Nat.sub_sub]
  rw [hbytes, List.length_append, length_utf8_singleton] at hfits
  have hsize : c.utf8Size ≤ capacity - s.bytes.length := by omega
  rw [write]
  simp only [within, hroom, hsize, if_true]

/-- A character that there is no room for is cut off. -/
theorem write_within_of_cutOff {s : Sink} {c : Char} {capacity : Nat} (h : s.IsFree)
    (hroom : s.bytes.length ≤ capacity)
    (hcut : capacity < (bytes { s with text := s.text.push c }).length) :
    ((s.within capacity).write c).2 = false
      ∧ ((s.within capacity).write c).1.bytes
        = (bytes { s with text := s.text.push c }).take capacity := by
  have hbytes := (write_of_isFree h c).2.2
  rw [hbytes, List.length_append, length_utf8_singleton] at hcut
  have hsize : ¬ c.utf8Size ≤ capacity - s.bytes.length := by omega
  have hwrite : (s.within capacity).write c
      = ({ s with
            cut := s.cut ++ (String.utf8EncodeChar c).take (capacity - s.bytes.length)
            room := some 0 }, false) := by
    rw [write]
    simp only [within, hsize, if_false]
  rw [hwrite, hbytes, List.take_append, List.take_of_length_le hroom]
  simp [bytes, utf8]

end Sink

namespace Formatter

/-- A formatter on a sink without bounds. -/
def IsFree (f : Formatter) : Prop := f.sink.IsFree

/-- A formatter as it would be on a sink with room for `capacity` bytes in all. -/
def within (capacity : Nat) (f : Formatter) : Formatter :=
  { f with sink := f.sink.within capacity }

/-- An operation that fits or is cut off: on a sink that has room for all that is
written without bounds it does the same, and on a smaller one it fails and keeps
what there is room for. -/
structure Metered (op : Formatter → Outcome) : Prop where
  /-- A sink without bounds stays one, and holds on to what it holds. -/
  grows : ∀ f : Formatter, f.IsFree →
    (op f).1.IsFree ∧ f.sink.bytes <+: (op f).1.sink.bytes
  fits : ∀ (capacity : Nat) (f : Formatter), f.IsFree →
    (op f).1.sink.bytes.length ≤ capacity →
      op (f.within capacity) = ((op f).1.within capacity, (op f).2)
  cutOff : ∀ (capacity : Nat) (f : Formatter), f.IsFree →
    f.sink.bytes.length ≤ capacity → capacity < (op f).1.sink.bytes.length →
      (op (f.within capacity)).2 ≠ none
        ∧ (op (f.within capacity)).1.sink.bytes = (op f).1.sink.bytes.take capacity

/-! ## §2. Characters. -/

/-- What a longer text keeps is what its beginning keeps, if that is cut off already. -/
theorem take_of_isPrefix {xs ys : List UInt8} (h : xs <+: ys) {n : Nat} (hn : n ≤ xs.length) :
    ys.take n = xs.take n := by
  obtain ⟨zs, rfl⟩ := h
  exact List.take_append_of_le_length hn

/-- One operation after the other. -/
theorem Metered.andThen {op next : Formatter → Outcome} (hop : Metered op)
    (hnext : Metered next) : Metered fun f => (op f).andThen next := by
  have hlength : ∀ f : Formatter, f.IsFree →
      (op f).1.sink.bytes.length ≤ ((op f).andThen next).1.sink.bytes.length := by
    intro f hf
    cases ho : op f with
    | mk g failure =>
        cases failure with
        | some e => exact Nat.le_refl _
        | none =>
            have hg : g.IsFree := by simpa [ho] using (hop.grows f hf).1
            exact (hnext.grows g hg).2.length_le
  refine ⟨fun f hf => ?_, fun capacity f hf hfits => ?_, fun capacity f hf hroom hcut => ?_⟩
  · obtain ⟨hfree, hprefix⟩ := hop.grows f hf
    cases ho : op f with
    | mk g failure =>
        rw [ho] at hfree hprefix
        cases failure with
        | some e => exact ⟨hfree, hprefix⟩
        | none =>
            obtain ⟨hfree', hprefix'⟩ := hnext.grows g hfree
            exact ⟨hfree', hprefix.trans hprefix'⟩
  · have hfirst := hop.fits capacity f hf (Nat.le_trans (hlength f hf) hfits)
    obtain ⟨hfree, _⟩ := hop.grows f hf
    cases ho : op f with
    | mk g failure =>
        rw [ho] at hfirst hfree
        simp only [ho] at hfits
        cases failure with
        | some e =>
            simp only [hfirst]
            rfl
        | none =>
            simp only [hfirst]
            exact hnext.fits capacity g hfree hfits
  · obtain ⟨hfree, _⟩ := hop.grows f hf
    by_cases hfirst : (op f).1.sink.bytes.length ≤ capacity
    · -- the first operation comes through, so the second one is cut off
      have hsame := hop.fits capacity f hf hfirst
      cases ho : op f with
      | mk g failure =>
          rw [ho] at hsame hfree hfirst
          simp only [ho] at hcut
          cases failure with
          | some e => exact absurd hfirst (by simpa [Outcome.andThen] using hcut)
          | none =>
              simp only [hsame]
              exact hnext.cutOff capacity g hfree hfirst hcut
    · -- the first operation is cut off, and the second is not begun
      obtain ⟨hfailure, hbytes⟩ := hop.cutOff capacity f hf hroom (by omega)
      have hkept : ((op f).andThen next).1.sink.bytes.take capacity
          = (op f).1.sink.bytes.take capacity := by
        refine take_of_isPrefix ?_ (by omega)
        cases ho : op f with
        | mk g failure =>
            rw [ho] at hfree
            cases failure with
            | some e => exact List.prefix_refl _
            | none => exact (hnext.grows g hfree).2
      cases ho : op (f.within capacity) with
      | mk g failure =>
          rw [ho] at hfailure hbytes
          cases failure with
          | none => exact absurd rfl hfailure
          | some e => exact ⟨by simp [Outcome.andThen], by rw [hkept]; exact hbytes⟩

/-- An operation that writes nothing. -/
theorem metered_of_commutes (move : Formatter → Formatter) (failure : Option Failure)
    (hsink : ∀ f, (move f).sink = f.sink)
    (hwithin : ∀ capacity f, move (f.within capacity) = (move f).within capacity) :
    Metered fun f => (move f, failure) := by
  refine ⟨fun f hf => ?_, fun capacity f _ _ => ?_, fun capacity f _ hroom hcut => ?_⟩
  · exact ⟨by simpa [IsFree, hsink] using hf, by simp [hsink]⟩
  · simp [hwithin]
  · exact absurd hroom (by simpa [hsink] using hcut)

theorem metered_write (c : Char) : Metered (write · c) := by
  refine ⟨fun f hf => ?_, fun capacity f hf hfits => ?_, fun capacity f hf hroom hcut => ?_⟩
  · obtain ⟨hw, hfree, hbytes⟩ := Sink.write_of_isFree hf c
    simp only [write, hw]
    exact ⟨hfree, by rw [hbytes]; exact List.prefix_append _ _⟩
  · have hw := (Sink.write_of_isFree hf c).1
    simp only [write, hw] at hfits
    simp only [write, within, Sink.write_within_of_fits hf hfits, hw]
  · have hw := (Sink.write_of_isFree hf c).1
    simp only [write, hw] at hcut
    obtain ⟨hfailed, hbytes⟩ := Sink.write_within_of_cutOff hf hroom hcut
    cases hs : (f.sink.within capacity).write c with
    | mk s fitted =>
        rw [hs] at hfailed hbytes
        obtain rfl : fitted = false := hfailed
        simp only [write, within, hs, hw]
        exact ⟨by simp, hbytes⟩

/-- An operation chosen by what the sink does not decide. -/
theorem Metered.chosen {op : Nat → Bool → Formatter → Outcome}
    (hop : ∀ depth pending, Metered (op depth pending)) :
    Metered fun f => op f.depth f.pending f :=
  ⟨fun f => (hop f.depth f.pending).grows f,
    fun capacity f => (hop f.depth f.pending).fits capacity f,
    fun capacity f => (hop f.depth f.pending).cutOff capacity f⟩

theorem composes_metered : Composes Metered where
  write := metered_write
  mark pending :=
    metered_of_commutes (fun f => { f with pending }) none (fun _ => rfl) fun _ _ => rfl
  andThen := Metered.andThen
  chosen := Metered.chosen

/-! ## §3. Steps. -/

theorem metered_outdent : Metered outdent := by
  have hchosen : ∀ (depth : Nat) (pending : Bool),
      Metered fun f => outdent ⟨depth, pending, f.sink⟩ := by
    intro depth pending
    cases depth with
    | zero =>
        exact metered_of_commutes (fun f => ⟨0, pending, f.sink⟩) _ (fun _ => rfl) fun _ _ => rfl
    | succ d =>
        exact metered_of_commutes (fun f => ⟨d, pending, f.sink⟩) _ (fun _ => rfl) fun _ _ => rfl
  exact Metered.chosen hchosen

/-- Closing a scope writes nothing, and takes no failure away. -/
theorem Metered.closeNested {op : Formatter → Outcome} (hop : Metered op) (depth : Nat) :
    Metered fun f => closeNested depth (op f) := by
  have hsink : ∀ o : Outcome, (Formatter.closeNested depth o).1.sink = o.1.sink := by
    intro o
    by_cases ho : o.1.depth = depth + 1
    · rw [closeNested_of_level ho]
    · rw [closeNested_of_ne ho]
  refine ⟨fun f hf => ?_, fun capacity f hf hfits => ?_, fun capacity f hf hroom hcut => ?_⟩
  · simpa only [IsFree, hsink] using hop.grows f hf
  · rw [hsink] at hfits
    rw [hop.fits capacity f hf hfits]
    by_cases ho : (op f).1.depth = depth + 1
    · simp [Formatter.closeNested, within, ho]
    · simp [Formatter.closeNested, within, ho]
  · rw [hsink] at hcut
    obtain ⟨hfailure, hbytes⟩ := hop.cutOff capacity f hf hroom hcut
    rw [hsink, hsink]
    refine ⟨?_, hbytes⟩
    by_cases ho : (op (f.within capacity)).1.depth = depth + 1
    · simpa [Formatter.closeNested, ho] using hfailure
    · simp [Formatter.closeNested, ho]

/-- A body is run one scope deeper. -/
theorem Metered.nested {op : Formatter → Outcome} (hop : Metered op) :
    Metered fun f => Formatter.closeNested f.depth (op f.indent) := by
  have hindented : Metered fun f => op f.indent :=
    (metered_of_commutes indent none (fun _ => rfl) fun _ _ => rfl).andThen hop
  have hchosen := Metered.chosen fun depth _ => hindented.closeNested depth
  exact hchosen

theorem inherits_metered : Inherits Metered (fun _ => True) fun _ => True where
  toComposes := composes_metered
  head := id
  tail := id
  body := id
  indent _ := metered_of_commutes indent none (fun _ => rfl) fun _ _ => rfl
  outdent _ := metered_outdent
  nested := Metered.nested
  fail {e} _ := metered_of_commutes id (some e) (fun _ => rfl) fun _ _ => rfl

/-- **Steps fit or are cut off.** -/
theorem metered_runAll (ss : List Step) : Metered fun f => Step.runAll f ss :=
  inherits_metered.runAll ss trivial

end Formatter

/-! ## §4. Which failure comes out. -/

mutual

/-- A step that neither opens nor closes a scope by hand, nor gives up. -/
def Step.Steady : Step → Prop
  | .text _ => True
  | .line => True
  | .nbsp => True
  | .indent => False
  | .outdent => False
  | .nested body => Step.AllSteady body
  | .fail _ => False

/-- Steps that are all steady. -/
def Step.AllSteady : List Step → Prop
  | [] => True
  | s :: ss => s.Steady ∧ Step.AllSteady ss

end

namespace Formatter

/-- An operation that ends at the depth that it begins at, failed or not, and does
not fail but for want of room. -/
def StaysLevel (op : Formatter → Outcome) : Prop :=
  ∀ f, (op f).1.depth = f.depth ∧ ((op f).2 = none ∨ (op f).2 = some (.io .full))

theorem StaysLevel.andThen {op next : Formatter → Outcome} (hop : StaysLevel op)
    (hnext : StaysLevel next) : StaysLevel fun f => (op f).andThen next := by
  intro f
  obtain ⟨hdepth, hfailure⟩ := hop f
  cases ho : op f with
  | mk g failure =>
      rw [ho] at hdepth hfailure
      simp only [ho]
      cases failure with
      | some e => exact ⟨hdepth, hfailure⟩
      | none =>
          obtain ⟨hdepth', hfailure'⟩ := hnext g
          exact ⟨hdepth'.trans hdepth, hfailure'⟩

theorem staysLevel_write (c : Char) : StaysLevel (write · c) := by
  intro f
  cases hs : f.sink.write c with
  | mk s fitted => cases fitted <;> simp [write, hs]

theorem composes_staysLevel : Composes StaysLevel where
  write := staysLevel_write
  mark _ := fun _ => ⟨rfl, .inl rfl⟩
  andThen := StaysLevel.andThen
  chosen hop := fun f => hop f.depth f.pending f

/-- A body that ends where it began has its scope closed and its failure kept. -/
theorem StaysLevel.nested {op : Formatter → Outcome} (hop : StaysLevel op) :
    StaysLevel fun f => closeNested f.depth (op f.indent) := by
  intro f
  obtain ⟨hdepth, hfailure⟩ := hop f.indent
  have hlevel : (op f.indent).1.depth = f.depth + 1 := hdepth
  simp only [closeNested_of_level hlevel]
  exact ⟨trivial, hfailure⟩

theorem inherits_staysLevel : Inherits StaysLevel Step.Steady Step.AllSteady where
  toComposes := composes_staysLevel
  head := And.left
  tail := And.right
  body := id
  indent := False.elim
  outdent := False.elim
  nested := StaysLevel.nested
  fail := False.elim

/-- **Steady steps stay level.** -/
theorem staysLevel_runAll (ss : List Step) (h : Step.AllSteady ss) :
    StaysLevel fun f => Step.runAll f ss :=
  inherits_staysLevel.runAll ss h

end Formatter

namespace Step

theorem AllSteady.append {xs ys : List Step} (hxs : AllSteady xs) (hys : AllSteady ys) :
    AllSteady (xs ++ ys) := by
  induction xs with
  | nil => exact hys
  | cons s xs ih => exact ⟨hxs.1, ih hxs.2⟩

/-- Steps that lead from a depth to another one, unless there is no room. -/
def Leads (ss : List Step) (d e : Nat) : Prop :=
  ∀ f : Formatter, f.depth = d →
    ((runAll f ss).2 = none ∧ (runAll f ss).1.depth = e) ∨ (runAll f ss).2 = some (.io .full)

theorem AllSteady.leads {ss : List Step} (h : AllSteady ss) (d : Nat) : Leads ss d d := by
  intro f hf
  obtain ⟨hdepth, hfailure⟩ := Formatter.staysLevel_runAll ss h f
  exact hfailure.imp_left fun hnone => ⟨hnone, hdepth.trans hf⟩

theorem leads_indent (d : Nat) : Leads [.indent] d (d + 1) :=
  fun _ hf => .inl ⟨rfl, congrArg (· + 1) hf⟩

theorem leads_outdent (d : Nat) : Leads [.outdent] (d + 1) d := by
  intro f hf
  obtain ⟨depth, pending, sink⟩ := f
  obtain rfl : depth = d + 1 := hf
  exact .inl ⟨rfl, rfl⟩

theorem Leads.append {xs ys : List Step} {d e k : Nat} (hxs : Leads xs d e)
    (hys : Leads ys e k) : Leads (xs ++ ys) d k := by
  intro f hf
  rw [runAll_append]
  cases hrun : runAll f xs with
  | mk g failure =>
      rcases hxs f hf with ⟨hnone, hdepth⟩ | hfull
      · rw [hrun] at hnone hdepth
        obtain rfl : failure = none := hnone
        exact hys g hdepth
      · rw [hrun] at hfull
        obtain rfl : failure = some (.io .full) := hfull
        exact .inr rfl

end Step

end DeclExport
