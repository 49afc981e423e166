/-
  DeclExport.Proofs.Layout.Composition
  ────────────────────────────────
  **WHAT LAYOUTS INHERIT FROM CHARACTERS.**

  Whatever is laid out comes down to characters that are written one after the other.  So
  a property of operations that holds of writing a character, and is kept by going on,
  holds of every text; and if it is kept by closing scopes as well, of every list of
  steps:

      write, mark        pad, line, put        run
      andThen, chosen    →    puts      →      runAll

  `Composes` is what the property has to have for the first arrow, and `Inherits` is what
  it has to have for the second one.  Some properties hold only of steps of a kind, so the
  kind is a part of `Inherits`.
-/
import DeclExport.Layout.Formatter

namespace DeclExport

/-! ## §1. One operation after the other. -/

/-- An operation and the next that succeed together succeed one after the other. -/
theorem Outcome.andThen_eq_ok {o : Outcome} {next : Formatter → Outcome} {g : Formatter}
    (h : o.andThen next = (g, none)) : ∃ f, o = (f, none) ∧ next f = (g, none) := by
  obtain ⟨f, failure⟩ := o
  cases failure with
  | none => exact ⟨f, rfl, h⟩
  | some e => exact absurd (congrArg Prod.snd h) (by simp [Outcome.andThen])

theorem Outcome.andThen_assoc (o : Outcome) (next last : Formatter → Outcome) :
    (o.andThen next).andThen last = o.andThen fun f => (next f).andThen last := by
  obtain ⟨f, failure⟩ := o
  cases failure with
  | none => rfl
  | some e => rfl

/-- Steps are run one part after the other. -/
theorem Step.runAll_append (xs ys : List Step) :
    ∀ f, runAll f (xs ++ ys) = (runAll f xs).andThen fun f => runAll f ys := by
  induction xs with
  | nil => intro f; rfl
  | cons s xs ih =>
      intro f
      rw [List.cons_append, runAll, runAll, Outcome.andThen_assoc]
      congr 1
      funext f
      exact ih f

namespace Formatter

/-- A scope is closed if its body ends one scope deeper than it was opened. -/
theorem closeNested_of_level {d : Nat} {o : Outcome} (h : o.1.depth = d + 1) :
    closeNested d o = ({ o.1 with depth := d }, o.2) :=
  if_pos h

/-- After any other body it is left as it is, and that is the failure. -/
theorem closeNested_of_ne {d : Nat} {o : Outcome} (h : o.1.depth ≠ d + 1) :
    closeNested d o = (o.1, some (.unbalanced (.leaked o.1.depth (d + 1)))) :=
  if_neg h

/-! ## §2. Characters. -/

/-- A property that operations have if those have it that they are made of. -/
structure Composes (P : (Formatter → Outcome) → Prop) : Prop where
  write (c : Char) : P (Formatter.write · c)
  mark (pending : Bool) : P fun f => ({ f with pending }, none)
  /-- One operation and then the other. -/
  andThen {op next : Formatter → Outcome} (hop : P op) (hnext : P next) :
    P fun f => (op f).andThen next
  /-- One of many operations, whatever it is chosen by but the sink. -/
  chosen {op : Nat → Bool → Formatter → Outcome} (hop : ∀ depth pending, P (op depth pending)) :
    P fun f => op f.depth f.pending f

namespace Composes

variable {P : (Formatter → Outcome) → Prop} (h : Composes P)

include h

/-- Nothing at all: what is marked is what was marked before. -/
theorem skip : P fun f => (f, none) := by
  have hsame := h.chosen fun _ pending => h.mark pending
  exact hsame

theorem writeMany (c : Char) (n : Nat) : P (Formatter.writeMany c n) := by
  induction n with
  | zero => exact h.skip
  | succ n ih => exact h.andThen (h.write c) ih

theorem pad : P Formatter.pad := by
  -- whether there is padding, and how much, is settled before anything is written
  have hchosen : ∀ (depth : Nat) (pending : Bool), P fun f =>
      if pending then
        (Formatter.writeMany ' ' (depth * indentWidth) f).andThen fun f =>
          ({ f with pending := false }, none)
      else (f, none) := by
    intro depth pending
    cases pending with
    | true => exact h.andThen (h.writeMany ' ' _) (h.mark false)
    | false => exact h.skip
  exact h.chosen hchosen

theorem line : P Formatter.line := h.andThen (h.write '\n') (h.mark true)

theorem put (c : Char) : P (Formatter.put · c) := by
  by_cases hc : c = '\n'
  · simpa only [Formatter.put, hc, if_true] using h.line
  · simpa only [Formatter.put, hc, if_false] using h.andThen h.pad (h.write c)

theorem puts (cs : List Char) : P (Formatter.puts · cs) := by
  induction cs with
  | nil => exact h.skip
  | cons c cs ih => exact h.andThen (h.put c) ih

end Composes

/-! ## §3. Steps. -/

/-- A property of operations that the steps of a kind have if their operations do.  Of a
list of that kind every step is of the kind, and so is every body. -/
structure Inherits (P : (Formatter → Outcome) → Prop) (Kind : Step → Prop)
    (AllKind : List Step → Prop) : Prop extends Composes P where
  head {s : Step} {ss : List Step} : AllKind (s :: ss) → Kind s
  tail {s : Step} {ss : List Step} : AllKind (s :: ss) → AllKind ss
  body {ss : List Step} : Kind (.nested ss) → AllKind ss
  indent : Kind .indent → P fun f => (f.indent, none)
  outdent : Kind .outdent → P Formatter.outdent
  /-- A body one scope deeper, and the scope closed. -/
  nested {op : Formatter → Outcome} (hop : P op) : P fun f => closeNested f.depth (op f.indent)
  fail {e : Failure} : Kind (.fail e) → P fun f => (f, some e)

section Inherits

variable {P : (Formatter → Outcome) → Prop} {Kind : Step → Prop} {AllKind : List Step → Prop}

mutual

/-- A step of the kind has the property. -/
theorem Inherits.run (h : Inherits P Kind AllKind) :
    ∀ s : Step, Kind s → P fun f => s.run f
  | .text s, _ => h.puts s.toList
  | .line, _ => h.line
  | .nbsp, _ => h.puts [' ']
  | .indent, hs => h.indent hs
  | .outdent, hs => h.outdent hs
  -- the body is run from another depth, which `nested` makes up for
  | .nested body, hs => h.nested (h.runAll body (h.body hs))
  | .fail _, hs => h.fail hs

/-- **Steps of the kind have the property.** -/
theorem Inherits.runAll (h : Inherits P Kind AllKind) :
    ∀ ss : List Step, AllKind ss → P fun f => Step.runAll f ss
  | [], _ => h.skip
  | s :: ss, hss => h.andThen (h.run s (h.head hss)) (h.runAll ss (h.tail hss))

end

end Inherits

end Formatter

end DeclExport
