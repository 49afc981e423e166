/-
  DeclExport.Proofs.Export.Insertion
  ────────────────────────────────
  **RUNS OF INSERTIONS.**

  A module is filled by calls, some of which fail and are followed by more.  What a run
  leaves behind is known from the calls that succeed (`run_ofFirsts`):

      entries   the first success of every name, in the order of the calls
      get?      the first success of the name

  and a call whose name has an entry changes nothing, whether it fails or not
  (`after_of_owned`).

  The names can also be kept in an index beside the entries, as the position of every
  name.  The two are written one after the other, and a position without an entry is an
  error.  On no run there is one: an index that fits stays so (`Mirrors`), and answers
  every call and finds every name as the module does.
-/
import DeclExport.Proofs.Export.Building

namespace DeclExport

/-! ## §1. One call. -/

theorem Entry.nodup_names_firsts (es : List Entry) : ((firsts es).map (·.name)).Nodup := by
  induction es with
  | nil => exact .nil
  | cons e es ih =>
      rw [firsts, List.map_cons, List.nodup_cons]
      refine ⟨?_, ih.sublist (List.filter_sublist.map _)⟩
      simp [List.mem_map, List.mem_filter]

namespace Module

/-- What a call fails with, if it does. -/
def refusal? (m : Module) (e : Entry) : Option Failure :=
  match m.insert e with
  | .ok _ => none
  | .error failure => some failure

/-- The module that a call leaves behind; one that fails leaves it as it is. -/
def after (m : Module) (e : Entry) : Module :=
  match m.insert e with
  | .ok m' => m'
  | .error _ => m

/-- The call, if it succeeds. -/
def accepted (m : Module) (e : Entry) : List Entry :=
  match m.insert e with
  | .ok _ => [e]
  | .error _ => []

section Call

variable {m : Module} {e : Entry}

theorem insert_of_free (h : m.get? e.name = none) : m.insert e = .ok ⟨m.entries ++ [e]⟩ := by
  simp only [insert, h]

theorem insert_of_owned {owner : Entry} (h : m.get? e.name = some owner) :
    m.insert e = if owner.origin = e.origin then .ok m
      else .error (.collision e.name owner.origin e.origin) := by
  simp only [insert, h]

/-- A call fails exactly if its name is owned by another declaration. -/
theorem insert_eq_error_iff {failure : Failure} :
    m.insert e = .error failure ↔ ∃ owner, m.get? e.name = some owner
      ∧ owner.origin ≠ e.origin ∧ failure = .collision e.name owner.origin e.origin := by
  cases hget : m.get? e.name with
  | none => simp [insert_of_free hget]
  | some owner =>
      rw [insert_of_owned hget]
      by_cases horigin : owner.origin = e.origin
      · simp [horigin]
      · rw [if_neg horigin]
        constructor
        · rintro ⟨⟩
          exact ⟨owner, rfl, horigin, rfl⟩
        · rintro ⟨_, ⟨⟩, _, rfl⟩
          rfl

/-- **A call whose name has an entry** changes nothing. -/
theorem after_of_owned {owner : Entry} (h : m.get? e.name = some owner) : m.after e = m := by
  rw [after, insert_of_owned h]
  by_cases horigin : owner.origin = e.origin
  · rw [if_pos horigin]
  · rw [if_neg horigin]

end Call

/-! ## §2. Runs. -/

/-- The module that calls leave behind, one after the other. -/
def run (m : Module) (calls : List Entry) : Module := calls.foldl after m

/-- The calls that succeed. -/
def successes (m : Module) : List Entry → List Entry
  | [] => []
  | e :: calls => m.accepted e ++ (m.after e).successes calls

/-- What the calls fail with, one by one. -/
def refusals (m : Module) : List Entry → List (Option Failure)
  | [] => []
  | e :: calls => m.refusal? e :: (m.after e).refusals calls

/-- The module of the first entry of every name. -/
def ofFirsts (es : List Entry) : Module := ⟨Entry.firsts es⟩

theorem get?_ofFirsts (es : List Entry) (name : String) :
    (ofFirsts es).get? name = es.find? fun e => e.name = name :=
  Entry.find?_firsts name es

/-- **One call more** is one success more, or none. -/
theorem after_ofFirsts (es : List Entry) (e : Entry) :
    (ofFirsts es).after e = ofFirsts (es ++ (ofFirsts es).accepted e) := by
  have hget := get?_ofFirsts es e.name
  cases hfind : es.find? (fun f => f.name = e.name) with
  | none =>
      -- nothing that succeeded has the name, so the call succeeds and is a first
      rw [hfind] at hget
      have hnew : es.any (fun f => f.name = e.name) = false := by
        rw [List.any_eq_false]
        exact List.find?_eq_none.mp hfind
      rw [after, accepted, insert_of_free hget]
      simp [ofFirsts, Entry.firsts_append_singleton, hnew]
  | some owner =>
      -- something has, so that an equal call adds no first and another one is refused
      rw [hfind] at hget
      have hold : es.any (fun f => f.name = e.name) = true :=
        List.any_eq_true.mpr ⟨owner, List.mem_of_find?_eq_some hfind, by
          simpa using List.find?_some hfind⟩
      rw [after_of_owned hget, accepted, insert_of_owned hget]
      by_cases horigin : owner.origin = e.origin
      · simp [ofFirsts, Entry.firsts_append_singleton, hold, horigin]
      · simp [horigin]

/-- **Runs** keep the first success of every name. -/
theorem run_ofFirsts (calls : List Entry) : ∀ es : List Entry,
    (ofFirsts es).run calls = ofFirsts (es ++ (ofFirsts es).successes calls) := by
  induction calls with
  | nil => intro es; rw [successes, List.append_nil]; rfl
  | cons e calls ih =>
      intro es
      have hstep : (ofFirsts es).run (e :: calls) = ((ofFirsts es).after e).run calls := rfl
      rw [hstep, successes, after_ofFirsts, ih, List.append_assoc]

theorem run_empty (calls : List Entry) : empty.run calls = ofFirsts (empty.successes calls) :=
  run_ofFirsts calls []

end Module

/-! ## §3. Entries with an index. -/

namespace IndexedModule

/-- **An index that fits**: the names have the positions of their entries, and no
others. -/
structure Mirrors (ix : IndexedModule) (m : Module) : Prop where
  entries : ix.entries = m.entries
  positions : ∀ name i,
    ix.positions.lookup name = some i ↔ ∃ e, ix.entries[i]? = some e ∧ e.name = name

namespace Mirrors

variable {ix : IndexedModule} {m : Module}

theorem empty : Mirrors .empty .empty where
  entries := rfl
  positions := by simp [IndexedModule.empty]

/-- Whatever is found is found at its position. -/
theorem find_eq (h : Mirrors ix m) (name : String) : ix.find name = .ok (m.get? name) := by
  rw [find, Module.get?, ← h.entries]
  cases hlookup : ix.positions.lookup name with
  | none =>
      have hnone : ix.entries.find? (fun e => e.name = name) = none := by
        rw [List.find?_eq_none]
        intro e he hname
        obtain ⟨i, hi⟩ := List.mem_iff_getElem?.mp he
        have hposition := (h.positions name i).mpr ⟨e, hi, of_decide_eq_true hname⟩
        rw [hlookup] at hposition
        cases hposition
      rw [hnone]
  | some i =>
      obtain ⟨e, hi, hname⟩ := (h.positions name i).mp hlookup
      have hsome : ix.entries.find? (fun e => e.name = name) = some e := by
        obtain ⟨hlt, hget⟩ := List.getElem?_eq_some_iff.mp hi
        rw [List.find?_eq_some_iff_getElem]
        refine ⟨decide_eq_true hname, i, hlt, hget, fun j hji => ?_⟩
        -- an earlier entry of the name would be at the same position
        have hj : ix.entries[j]? = some ix.entries[j] := List.getElem?_eq_getElem _
        by_contra hearlier
        have hposition := (h.positions name j).mpr ⟨_, hj, by simpa using hearlier⟩
        rw [hlookup] at hposition
        exact Nat.ne_of_gt hji (Option.some.inj hposition)
      simp only [hi, hsome]

/-- A name without an entry has no position. -/
theorem lookup_of_free (h : Mirrors ix m) {name : String} (hfree : m.get? name = none) :
    ix.positions.lookup name = none := by
  rw [Option.eq_none_iff_forall_ne_some]
  intro i hi
  obtain ⟨e, he, hname⟩ := (h.positions name i).mp hi
  rw [Module.get?, ← h.entries, List.find?_eq_none] at hfree
  exact hfree e (List.mem_of_getElem? he) (decide_eq_true hname)

/-- **A name that is free** is given the position behind the last entry. -/
theorem append (h : Mirrors ix m) {e : Entry} (hfree : m.get? e.name = none) :
    Mirrors ⟨ix.entries ++ [e], (e.name, ix.entries.length) :: ix.positions⟩
      ⟨m.entries ++ [e]⟩ where
  entries := by rw [h.entries]
  positions := by
    intro name i
    -- an entry of the name at `i` is an old one, or the new one behind them
    have hentry : (∃ f, (ix.entries ++ [e])[i]? = some f ∧ f.name = name)
        ↔ (∃ f, ix.entries[i]? = some f ∧ f.name = name)
          ∨ (ix.entries.length = i ∧ e.name = name) := by
      rcases Nat.lt_trichotomy i ix.entries.length with hi | rfl | hi
      · simp [List.getElem?_append_left hi, Nat.ne_of_gt hi]
      · simp
      · have hbehind : (ix.entries ++ [e])[i]? = none := by
          rw [List.getElem?_eq_none_iff, List.length_append, List.length_singleton]
          exact hi
        simp [hbehind, List.getElem?_eq_none (Nat.le_of_lt hi), Nat.ne_of_lt hi]
    rw [hentry, ← h.positions name i, List.lookup_cons]
    by_cases hname : name = e.name
    · rw [hname, h.lookup_of_free hfree]
      simp
    · rw [beq_false_of_ne hname]
      simp [Ne.symm hname]

/-- A call whose name has an entry is answered, and writes nothing. -/
theorem insert_of_owned (h : Mirrors ix m) {e owner : Entry}
    (howner : m.get? e.name = some owner) : ix.insert e = .ok (ix, m.refusal? e) := by
  rw [insert, h.find_eq, howner, Module.refusal?, Module.insert_of_owned howner]
  by_cases horigin : owner.origin = e.origin <;> simp [horigin]

/-- **One call** is answered as it is by the module, and leaves an index that fits. -/
theorem insert_eq (h : Mirrors ix m) (e : Entry) :
    ∃ ix', ix.insert e = .ok (ix', m.refusal? e) ∧ Mirrors ix' (m.after e) := by
  cases hget : m.get? e.name with
  | none =>
      refine ⟨⟨ix.entries ++ [e], (e.name, ix.entries.length) :: ix.positions⟩, ?_, ?_⟩
      · rw [insert, h.find_eq, hget, Module.refusal?, Module.insert_of_free hget]
      · rw [Module.after, Module.insert_of_free hget]
        exact h.append hget
  | some owner =>
      refine ⟨ix, h.insert_of_owned hget, ?_⟩
      rw [Module.after_of_owned hget]
      exact h

/-- **Runs** get to no position without an entry. -/
theorem run_eq (calls : List Entry) : ∀ {ix : IndexedModule} {m : Module}, Mirrors ix m →
    ∃ ix', ix.run calls = .ok (ix', m.refusals calls) ∧ Mirrors ix' (m.run calls) := by
  induction calls with
  | nil => intro ix m h; exact ⟨ix, rfl, h⟩
  | cons e calls ih =>
      intro ix m h
      obtain ⟨ix', hinsert, h'⟩ := h.insert_eq e
      obtain ⟨ix'', hrun, h''⟩ := ih h'
      refine ⟨ix'', ?_, h''⟩
      simp only [run, hinsert, hrun]
      rfl

end Mirrors

end IndexedModule

/-! ## §4. THE INSERTION THEOREM. -/

/-- **Whatever the calls**, failing ones among them: the entries are the first success of
every name, in the order of the calls, and a name is looked up as its first success.  One
more call fails exactly if another declaration owns its name, and changes nothing if any
does.  The index goes through the same run without an error and with the same answers;
every position in it is that of an entry of the name, and every entry has its own. -/
theorem Module.run_agrees (calls : List Entry) :
    ((empty.run calls).entries.map (·.name)).Nodup
    ∧ (empty.run calls).entries = Entry.firsts (empty.successes calls)
    ∧ (∀ name, (empty.run calls).get? name
        = (empty.successes calls).find? fun e => e.name = name)
    ∧ (∀ e failure, (empty.run calls).insert e = .error failure
        ↔ ∃ owner, (empty.run calls).get? e.name = some owner
          ∧ owner.origin ≠ e.origin ∧ failure = .collision e.name owner.origin e.origin)
    ∧ (∀ e owner, (empty.run calls).get? e.name = some owner →
        empty.run (calls ++ [e]) = empty.run calls)
    ∧ ∃ ix, IndexedModule.empty.run calls = .ok (ix, empty.refusals calls)
      ∧ ix.entries = (empty.run calls).entries
      ∧ (∀ name i, ix.positions.lookup name = some i
          ↔ ∃ e, ix.entries[i]? = some e ∧ e.name = name)
      ∧ (∀ name, ix.find name = .ok ((empty.run calls).get? name))
      ∧ ∀ e owner, (empty.run calls).get? e.name = some owner →
          ix.insert e = .ok (ix, (empty.run calls).refusal? e) := by
  have hrun := run_empty calls
  obtain ⟨ix, hix, hmirrors⟩ := IndexedModule.Mirrors.empty.run_eq calls
  refine ⟨?_, ?_, ?_, fun e failure => insert_eq_error_iff, ?_,
    ix, hix, hmirrors.entries, hmirrors.positions, hmirrors.find_eq, ?_⟩
  · rw [hrun]
    exact Entry.nodup_names_firsts _
  · rw [hrun]
    rfl
  · intro name
    rw [hrun]
    exact get?_ofFirsts _ name
  · intro e owner howner
    rw [run, List.foldl_append, List.foldl_cons, List.foldl_nil]
    exact after_of_owned howner
  · intro e owner howner
    exact hmirrors.insert_of_owned howner

/-- A name, a collision with it, another name, and the first name again with another
term. -/
def Entry.ofCollision : List Entry :=
  [⟨"x", "t1", ⟨1⟩⟩, ⟨"x", "t2", ⟨2⟩⟩, ⟨"y", "t3", ⟨2⟩⟩, ⟨"x", "t4", ⟨1⟩⟩]

/-- The two names have their first terms, and one more collision changes neither the
entries nor the index. -/
theorem Module.run_agrees_on_collision :
    (empty.run Entry.ofCollision).entries = [⟨"x", "t1", ⟨1⟩⟩, ⟨"y", "t3", ⟨2⟩⟩]
    ∧ (empty.run Entry.ofCollision).insert ⟨"y", "t5", ⟨1⟩⟩ = .error (.collision "y" ⟨2⟩ ⟨1⟩)
    ∧ empty.run (Entry.ofCollision ++ [⟨"y", "t5", ⟨1⟩⟩]) = empty.run Entry.ofCollision
    ∧ ∃ ix, IndexedModule.empty.run Entry.ofCollision
        = .ok (ix, [none, some (.collision "x" ⟨1⟩ ⟨2⟩), none, none])
      ∧ ix.find "y" = .ok (some ⟨"y", "t3", ⟨2⟩⟩)
      ∧ ix.insert ⟨"y", "t5", ⟨1⟩⟩ = .ok (ix, some (.collision "y" ⟨2⟩ ⟨1⟩)) := by
  obtain ⟨-, hentries, hget, herror, howned, ix, hix, -, -, hfind, hinsert⟩ :=
    run_agrees Entry.ofCollision
  have howner : (empty.run Entry.ofCollision).get? "y" = some ⟨"y", "t3", ⟨2⟩⟩ :=
    (hget "y").trans (by decide)
  refine ⟨hentries.trans (by decide), (herror _ _).mpr ⟨_, howner, by decide, rfl⟩,
    howned _ _ howner, ix, hix.trans ?_, (hfind "y").trans (congrArg _ howner),
    (hinsert _ _ howner).trans ?_⟩
  · have hanswers : empty.refusals Entry.ofCollision
        = [none, some (.collision "x" ⟨1⟩ ⟨2⟩), none, none] := by
      decide
    rw [hanswers]
  · have hanswer : (empty.run Entry.ofCollision).refusal? ⟨"y", "t5", ⟨1⟩⟩
        = some (.collision "y" ⟨2⟩ ⟨1⟩) := by
      decide
    rw [hanswer]

end DeclExport
