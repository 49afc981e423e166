/-
  DeclExport.Proofs.Annotation.History
  ────────────────────────────────
  **A TABLE ANSWERS FROM THE LOG OF ITS CALLS.**

  Three calls write to a table: recording, replacing and collecting a unit.  The log of a
  declaration is what the calls since it was last replaced write for it, in order
  (`logged`).  One call more is one list more, or a log that begins anew:

      lookup of the run   =   the log                        (`lookup_run`)
      has, get?           —   the first annotation of a key in the log
      size                =   the declarations with a log

  Rows are looked up by identity, so the count needs an invariant of its own: every
  identity has one row, whatever the calls (`IsKeyed`).
-/
import Mathlib.Data.List.Induction
import Mathlib.Data.List.Perm.Subperm
import DeclExport.Proofs.Annotation.Collection

namespace DeclExport

namespace AnnotationTable

/-! ## §1. Calls and their log. -/

/-- What writes to a table. -/
inductive Call where
  | record (id : DeclId) (as : List Annotation)
  | replace (id : DeclId) (as : List Annotation)
  | collect (u : SourceUnit)

namespace Call

/-- The table after a call. -/
def apply (t : AnnotationTable) : Call → AnnotationTable
  | record id as => t.record id as
  | replace id as => t.replace id as
  | collect u => u.collectInto t

/-- Whether a call replaces what a declaration has. -/
def replaces (id : DeclId) : Call → Bool
  | replace other _ => other = id
  | _ => false

/-- Whether a call has anything to do with a declaration. -/
def Concerns (id : DeclId) : Call → Prop
  | record other _ => other = id
  | replace other _ => other = id
  | collect u => ∃ d ∈ u.decls, d.id = id

/-- The lists that a call writes for a declaration: one for every comment, where a unit
is collected. -/
def lists (id : DeclId) : Call → List (List Annotation)
  | record other as => if other = id then [as] else []
  | replace other as => if other = id then [as] else []
  | collect u =>
      (u.decls.filter fun d => d.id = id).filterMap fun d => d.comment.map Comment.annotations

/-- A declaration that a call does not concern is written nothing. -/
theorem untouched {c : Call} {id : DeclId} (h : ¬ c.Concerns id) :
    c.replaces id = false ∧ c.lists id = [] := by
  cases c with
  | record other as => exact ⟨rfl, if_neg h⟩
  | replace other as => exact ⟨decide_eq_false h, if_neg h⟩
  | collect u =>
      have hnone : (u.decls.filter fun d => d.id = id) = [] := by
        rw [List.filter_eq_nil_iff]
        exact fun d hd hid => h ⟨d, hd, of_decide_eq_true hid⟩
      exact ⟨rfl, by rw [lists, hnone, List.filterMap_nil]⟩

/-- A declaration without a comment announces nothing. -/
theorem flatten_comments (ds : List Decl) :
    (ds.filterMap fun d => d.comment.map Comment.annotations).flatten
      = ds.flatMap Decl.annotations := by
  induction ds with
  | nil => rfl
  | cons d ds ih =>
      rw [List.flatMap_cons, ← ih, Decl.annotations]
      cases hcomment : d.comment with
      | none => simp [hcomment]
      | some comment => simp [hcomment]

/-- **One call** adds its lists, to nothing if it replaces. -/
theorem lookup_apply (t : AnnotationTable) (c : Call) (id : DeclId) :
    (c.apply t).lookup id
      = (if c.replaces id then [] else t.lookup id) ++ (c.lists id).flatten := by
  cases c with
  | record other as =>
      rw [apply, lookup_record]
      by_cases hid : other = id
      · simp [replaces, lists, hid]
      · simp [replaces, lists, hid, Ne.symm hid]
  | replace other as =>
      rw [apply, lookup_replace]
      by_cases hid : other = id
      · simp [replaces, lists, hid]
      · simp [replaces, lists, hid, Ne.symm hid]
  | collect u =>
      rw [apply, SourceUnit.lookup_collectInto, lists, flatten_comments]
      simp [replaces]

end Call

/-- The table after calls, one after the other. -/
def run (t : AnnotationTable) (calls : List Call) : AnnotationTable := calls.foldl Call.apply t

theorem run_append (t : AnnotationTable) (calls later : List Call) :
    t.run (calls ++ later) = (t.run calls).run later :=
  List.foldl_append

/-- The calls from the last one on that replaces what a declaration has; all of them, if
there is none. -/
def sinceReplaced (id : DeclId) : List Call → List Call
  | [] => []
  | c :: calls => if calls.any (·.replaces id) then sinceReplaced id calls else c :: calls

/-- **The log of a declaration.** -/
def logged (id : DeclId) (calls : List Call) : List Annotation :=
  ((sinceReplaced id calls).flatMap (·.lists id)).flatten

theorem sinceReplaced_append_singleton (id : DeclId) (calls : List Call) (c : Call) :
    sinceReplaced id (calls ++ [c])
      = if c.replaces id then [c] else sinceReplaced id calls ++ [c] := by
  induction calls with
  | nil => cases c.replaces id <;> rfl
  | cons x calls ih =>
      -- a call that replaces ends the search at itself; another one does not move it
      rw [List.cons_append, sinceReplaced, ih, sinceReplaced, List.any_append]
      cases hc : c.replaces id with
      | true => simp [hc]
      | false => cases hcalls : calls.any (·.replaces id) <;> simp [hc]

/-- One call more in the log. -/
theorem logged_append_singleton (id : DeclId) (calls : List Call) (c : Call) :
    logged id (calls ++ [c])
      = (if c.replaces id then [] else logged id calls) ++ (c.lists id).flatten := by
  rw [logged, sinceReplaced_append_singleton]
  cases c.replaces id <;> simp [logged]

/-- **Runs** look up the log. -/
theorem lookup_run (calls : List Call) (id : DeclId) :
    (empty.run calls).lookup id = logged id calls := by
  induction calls using List.reverseRecOn with
  | nil => rfl
  | append_singleton calls c ih =>
      have hlast : (empty.run (calls ++ [c])) = c.apply (empty.run calls) := run_append _ _ _
      rw [hlast, Call.lookup_apply, logged_append_singleton, ih]

/-- Calls that do not replace leave what is looked up in front. -/
theorem prefix_lookup_run {calls : List Call} {id : DeclId}
    (h : ∀ c ∈ calls, c.replaces id = false) : ∀ t : AnnotationTable,
      t.lookup id <+: (t.run calls).lookup id := by
  induction calls with
  | nil => intro t; exact List.prefix_rfl
  | cons c calls ih =>
      intro t
      obtain ⟨hc, hcalls⟩ := List.forall_mem_cons.mp h
      have hstep : t.lookup id <+: (c.apply t).lookup id := by
        rw [Call.lookup_apply, hc]
        exact List.prefix_append _ _
      exact hstep.trans (ih hcalls (c.apply t))

/-! ## §2. What is asked of a list. -/

/-- The value of a key is that of the first annotation with it. -/
theorem get?_eq_some_iff {t : AnnotationTable} {id : DeclId} {key v : String} :
    t.get? id key = some v ↔ ∃ before a after, t.lookup id = before ++ a :: after
      ∧ (∀ b ∈ before, b.key ≠ key) ∧ a.key = key ∧ a.value = some v := by
  rw [get?, Option.bind_eq_some_iff]
  constructor
  · rintro ⟨a, ha, hv⟩
    obtain ⟨hkey, before, after, hsplit, hbefore⟩ := List.find?_eq_some_iff_append.mp ha
    exact ⟨before, a, after, hsplit, by simpa using hbefore, of_decide_eq_true hkey, hv⟩
  · rintro ⟨before, a, after, hsplit, hbefore, hkey, hv⟩
    exact ⟨a, List.find?_eq_some_iff_append.mpr
      ⟨decide_eq_true hkey, before, after, hsplit, by simpa using hbefore⟩, hv⟩

section Extended

variable {t t' : AnnotationTable} {id : DeclId} {key : String}

/-- What is added behind takes no key away. -/
theorem has_of_extended (h : t.lookup id <+: t'.lookup id) (hhas : t.has id key = true) :
    t'.has id key = true := by
  rw [has_iff] at hhas ⊢
  obtain ⟨a, ha, hkey⟩ := hhas
  exact ⟨a, h.subset ha, hkey⟩

/-- What is added behind gives no other value to a key that is there. -/
theorem get?_of_extended (h : t.lookup id <+: t'.lookup id) (hhas : t.has id key = true) :
    t'.get? id key = t.get? id key := by
  obtain ⟨more, hmore⟩ := h
  obtain ⟨a, ha⟩ := Option.isSome_iff_exists.mp
    (List.find?_isSome.mpr (List.any_eq_true.mp hhas))
  rw [get?, get?, ← hmore, List.find?_append, ha, Option.some_or]

end Extended

/-! ## §3. One row for every identity. -/

/-- No identity has two rows. -/
def IsKeyed (t : AnnotationTable) : Prop := (t.rows.map (·.1)).Nodup

theorem isKeyed_empty : empty.IsKeyed := List.nodup_nil

theorem map_fst_put (id : DeclId) (as : List Annotation)
    (rows : List (DeclId × List Annotation)) :
    (put id as rows).map (·.1)
      = if id ∈ rows.map (·.1) then rows.map (·.1) else rows.map (·.1) ++ [id] := by
  induction rows with
  | nil => rfl
  | cons row rows ih =>
      by_cases hrow : row.1 = id
      · simp [put, hrow]
      · rw [put, if_neg hrow, List.map_cons, ih, List.map_cons]
        by_cases hid : id ∈ rows.map (·.1)
        · simp [hid]
        · simp [hid, Ne.symm hrow]

theorem IsKeyed.replace {t : AnnotationTable} (h : t.IsKeyed) (id : DeclId)
    (as : List Annotation) : (t.replace id as).IsKeyed := by
  rw [IsKeyed, AnnotationTable.replace, map_fst_put]
  by_cases hid : id ∈ t.rows.map (·.1)
  · rw [if_pos hid]
    exact h
  · rw [if_neg hid]
    exact List.Nodup.append h (List.nodup_singleton id) (by simpa using hid)

theorem IsKeyed.record {t : AnnotationTable} (h : t.IsKeyed) (id : DeclId)
    (as : List Annotation) : (t.record id as).IsKeyed :=
  h.replace id _

theorem IsKeyed.foldl_record (rows : List (DeclId × List Annotation)) :
    ∀ {t : AnnotationTable}, t.IsKeyed →
      (rows.foldl (fun t row => t.record row.1 row.2) t).IsKeyed := by
  induction rows with
  | nil => intro t h; exact h
  | cons row rows ih => intro t h; exact ih (h.record row.1 row.2)

/-- **One call** leaves one row for every identity. -/
theorem IsKeyed.apply {t : AnnotationTable} (h : t.IsKeyed) (c : Call) :
    (c.apply t).IsKeyed := by
  cases c with
  | record id as => exact h.record id as
  | replace id as => exact h.replace id as
  | collect u => exact IsKeyed.foldl_record _ h

/-- **Runs** leave one row for every identity. -/
theorem IsKeyed.run {t : AnnotationTable} (h : t.IsKeyed) (calls : List Call) :
    (t.run calls).IsKeyed := by
  induction calls generalizing t with
  | nil => exact h
  | cons c calls ih => exact ih (h.apply c)

/-- The declarations with at least one annotation. -/
def annotated (t : AnnotationTable) : List DeclId :=
  (t.rows.filter fun row => !row.2.isEmpty).map (·.1)

theorem size_eq_length_annotated (t : AnnotationTable) : t.size = t.annotated.length := by
  rw [size, annotated, List.length_map]

theorem IsKeyed.nodup_annotated {t : AnnotationTable} (h : t.IsKeyed) : t.annotated.Nodup :=
  h.sublist (List.filter_sublist.map _)

/-- Where identities have one row each, those of rows with an annotation look up
something, and no others do. -/
theorem mem_annotated_iff {t : AnnotationTable} (h : t.IsKeyed) {id : DeclId} :
    id ∈ t.annotated ↔ t.lookup id ≠ [] := by
  obtain ⟨rows⟩ := t
  rw [IsKeyed] at h
  rw [annotated, lookup]
  dsimp only at h ⊢
  induction rows with
  | nil => simp
  | cons row rows ih =>
      obtain ⟨key, as⟩ := row
      obtain ⟨hkey, hrows⟩ := List.nodup_cons.mp h
      rw [lookup_row]
      by_cases hid : id = key
      · -- the row of `id` is this one, and no later one is counted for it
        have hother : key ∉ (rows.filter fun row => !row.2.isEmpty).map (·.1) := fun hmem =>
          hkey ((List.filter_sublist.map _).subset hmem)
        rw [if_pos hid, hid]
        cases as with
        | nil => simpa using hother
        | cons a as => simp
      · rw [if_neg hid, ← ih hrows]
        cases as <;> simp [hid]

/-! ## §4. THE HISTORY THEOREM. -/

/-- **Whatever the calls**: what is looked up for a declaration is its log; a key is there
if the log has an annotation with it, and has the value of the first of them; the size is
the number of declarations with a log that is not empty; and a declaration that a call
does not concern keeps what it has.  Later calls that do not replace what a declaration
has take no key from it and change no value, and where nothing is replaced the size does
not go down. -/
theorem run_answers (calls : List Call) :
    (∀ id, (empty.run calls).lookup id = logged id calls)
    ∧ (∀ id key, (empty.run calls).has id key = true ↔ ∃ a ∈ logged id calls, a.key = key)
    ∧ (∀ id key v, (empty.run calls).get? id key = some v
        ↔ ∃ before a after, logged id calls = before ++ a :: after
          ∧ (∀ b ∈ before, b.key ≠ key) ∧ a.key = key ∧ a.value = some v)
    ∧ (∃ ids : List DeclId, ids.Nodup ∧ (∀ id, id ∈ ids ↔ logged id calls ≠ [])
        ∧ (empty.run calls).size = ids.length)
    ∧ (∀ c id, ¬ Call.Concerns id c →
        (empty.run (calls ++ [c])).lookup id = (empty.run calls).lookup id)
    ∧ (∀ later id, (∀ c ∈ later, c.replaces id = false) →
        ∀ key, (empty.run calls).has id key = true →
          (empty.run (calls ++ later)).has id key = true
          ∧ (empty.run (calls ++ later)).get? id key = (empty.run calls).get? id key)
    ∧ ∀ later, (∀ id, ∀ c ∈ later, c.replaces id = false) →
        (empty.run calls).size ≤ (empty.run (calls ++ later)).size := by
  refine ⟨lookup_run calls, ?_, ?_, ?_, ?_, ?_, ?_⟩
  · intro id key
    rw [has_iff, lookup_run]
  · intro id key v
    rw [get?_eq_some_iff, lookup_run]
  · have hkeyed := isKeyed_empty.run calls
    refine ⟨_, hkeyed.nodup_annotated, fun id => ?_, size_eq_length_annotated _⟩
    rw [mem_annotated_iff hkeyed, lookup_run]
  · intro c id hc
    obtain ⟨hkeeps, hnothing⟩ := Call.untouched hc
    rw [lookup_run, lookup_run, logged_append_singleton, hkeeps, hnothing]
    simp
  · intro later id hkeeps key hhas
    have hprefix := prefix_lookup_run hkeeps (empty.run calls)
    rw [run_append]
    exact ⟨has_of_extended hprefix hhas, get?_of_extended hprefix hhas⟩
  · intro later hkeeps
    rw [run_append, size_eq_length_annotated, size_eq_length_annotated]
    -- a declaration that is counted before is counted after, and each is counted once
    have hkeyed := isKeyed_empty.run calls
    refine (hkeyed.nodup_annotated.subperm fun id hid => ?_).length_le
    rw [mem_annotated_iff hkeyed] at hid
    rw [mem_annotated_iff (hkeyed.run later)]
    exact fun hnil => hid (List.prefix_nil.mp (hnil ▸ prefix_lookup_run (hkeeps id) _))

end AnnotationTable

/-- Two declarations of one identity. -/
def SourceUnit.ofRepeated : SourceUnit :=
  ⟨[], [⟨⟨9⟩, "a", [], none, some "// @export", .typedef .bool⟩,
    ⟨⟨9⟩, "b", [], none, some "// @requires n", .typedef .bool⟩]⟩

namespace AnnotationTable

/-- What is recorded for `7` is replaced and added to; what a unit says of `9` stays; for
`8` nothing is recorded. -/
def Call.ofReplaced : List Call :=
  [.record ⟨7⟩ [⟨"export", none⟩], .collect .ofRepeated, .replace ⟨7⟩ [⟨"opaque", none⟩],
    .record ⟨8⟩ [], .record ⟨7⟩ [⟨"requires", some "p"⟩]]

/-- Two declarations have a log; another requirement behind it changes neither the value
of the first nor the other declaration. -/
theorem run_answers_of_replaced :
    (empty.run Call.ofReplaced).lookup ⟨7⟩ = [⟨"opaque", none⟩, ⟨"requires", some "p"⟩]
    ∧ (empty.run Call.ofReplaced).lookup ⟨9⟩ = [⟨"export", none⟩, ⟨"requires", some "n"⟩]
    ∧ (empty.run (Call.ofReplaced ++ [.record ⟨7⟩ [⟨"requires", some "q"⟩]])).lookup ⟨9⟩
      = (empty.run Call.ofReplaced).lookup ⟨9⟩
    ∧ (empty.run (Call.ofReplaced ++ [.record ⟨7⟩ [⟨"requires", some "q"⟩]])).get? ⟨7⟩ "requires"
      = some "p"
    ∧ (empty.run Call.ofReplaced).size
      ≤ (empty.run (Call.ofReplaced ++ [.record ⟨7⟩ [⟨"requires", some "q"⟩]])).size := by
  obtain ⟨hlookup, hhas, hget, -, hother, hkept, hsize⟩ := run_answers Call.ofReplaced
  have hlog : logged ⟨7⟩ Call.ofReplaced = [⟨"opaque", none⟩, ⟨"requires", some "p"⟩] := by
    decide
  have hthere : (empty.run Call.ofReplaced).has ⟨7⟩ "requires" = true :=
    (hhas _ _).mpr ⟨⟨"requires", some "p"⟩, by simp [hlog], rfl⟩
  have hvalue : (empty.run Call.ofReplaced).get? ⟨7⟩ "requires" = some "p" :=
    (hget _ _ _).mpr ⟨[⟨"opaque", none⟩], ⟨"requires", some "p"⟩, [], hlog, by simp, rfl, rfl⟩
  refine ⟨(hlookup _).trans hlog, (hlookup _).trans (by decide), ?_, ?_, ?_⟩
  · exact hother _ _ (by simp [Call.Concerns])
  · exact (hkept _ ⟨7⟩ (by simp [Call.replaces]) _ hthere).2.trans hvalue
  · exact hsize _ (by simp [Call.replaces])

end AnnotationTable

end DeclExport
