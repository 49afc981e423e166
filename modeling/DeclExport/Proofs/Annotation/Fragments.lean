/-
  DeclExport.Proofs.Annotation.Fragments
  ────────────────────────────────
  **ANNOTATIONS, FRAGMENT BY FRAGMENT.**

  A line of a comment ends in LF or in CRLF.  Fragments joined by any mix of the two say
  what the fragments say, one after the other:

      annotations (f₁ ⏎ f₂ ⏎ … ⏎ fₙ)  =  annotations f₁ ++ … ++ annotations fₙ

  Two facts carry it.  Reading cuts at every LF, whatever stands in front of it
  (`annotations_newline`); and the CR that CRLF leaves at the end of a line is a blank, so
  it goes with the first trim, before any marker is looked for (`announced_append_return`).

  So it does not matter to whom the CR of a line belongs: a reader that knows CRLF, and
  that a last line need not be ended, finds the same annotations (`annotations_eq_lines`).
-/
import DeclExport.Proofs.Annotation.Collection
import DeclExport.Proofs.Text.Trimming

namespace DeclExport

/-! ## §1. Lines and how they end. -/

namespace Text

/-- How a line ends. -/
inductive LineBreak where
  | lf
  | crlf
  deriving Repr, DecidableEq

/-- The characters that end a line. -/
def LineBreak.text : LineBreak → String
  | lf => "\n"
  | crlf => "\r\n"

/-- Fragments, each with the line break behind it unless it is the last. -/
def joined : List (String × LineBreak) → String
  | [] => ""
  | [part] => part.1
  | part :: later => part.1 ++ part.2.text ++ joined later

/-- Every LF of a text replaced. -/
def replaceBreaks (b : LineBreak) (text : String) : String :=
  String.ofList (text.toList.flatMap fun c => if c = '\n' then b.text.toList else [c])

theorem joined_cons {part : String × LineBreak} {later : List (String × LineBreak)}
    (h : later ≠ []) : joined (part :: later) = part.1 ++ part.2.text ++ joined later := by
  cases later with
  | nil => exact absurd rfl h
  | cons => rfl

/-- A character in front of the first fragment is one in front of the text. -/
theorem joined_push (c : Char) (f : List Char) (b : LineBreak)
    (later : List (String × LineBreak)) :
    (joined ((String.ofList (c :: f), b) :: later)).toList
      = c :: (joined ((String.ofList f, b) :: later)).toList := by
  cases later with
  | nil => simp [joined]
  | cons => simp [joined]

theorem pieces_ne_nil (sep : Char) (cs : List Char) : pieces sep cs ≠ [] := by
  rw [pieces_eq_splitOn]
  exact List.splitOn_ne_nil sep cs

/-- The pieces of a text, joined by a line break, are the text with this line break. -/
theorem joined_pieces (b : LineBreak) (text : String) :
    joined ((pieces '\n' text.toList).map fun piece => (String.ofList piece, b))
      = replaceBreaks b text := by
  rw [← String.toList_inj, replaceBreaks, String.toList_ofList]
  induction text.toList with
  | nil => rfl
  | cons c cs ih =>
      obtain ⟨piece, later, hcs⟩ := List.exists_cons_of_ne_nil (pieces_ne_nil '\n' cs)
      rw [hcs, List.map_cons] at ih
      rw [List.flatMap_cons, ← ih]
      by_cases hc : c = '\n'
      · rw [pieces, if_pos hc, if_pos hc, hcs, List.map_cons, List.map_cons, joined_cons (by simp)]
        simp
      · simp only [pieces, if_neg hc, hcs, List.map_cons, List.singleton_append]
        exact joined_push c piece b _

theorem replaceBreaks_lf (text : String) : replaceBreaks .lf text = text := by
  have hsame : (fun c => if c = '\n' then LineBreak.lf.text.toList else [c])
      = fun c : Char => [c] := by
    funext c
    by_cases hc : c = '\n' <;> simp [hc, LineBreak.text]
  rw [replaceBreaks, hsame, List.flatMap_singleton', String.ofList_toList]

end Text

/-! ## §2. What a line says does not depend on its CR. -/

namespace Comment

open Text

/-- The annotation that a line announces, if it does. -/
def announced (line : List Char) : Option Annotation := annotation? (content line)

theorem annotations_eq_filterMap (comment : String) :
    annotations comment = (pieces '\n' comment.toList).filterMap announced := rfl

/-- A CR at the end of a line is trimmed off before any marker is looked for. -/
theorem announced_append_return (line : List Char) :
    announced (line ++ ['\r']) = announced line := by
  have hreturn : isBlank '\r' = true := by decide
  unfold announced content
  rw [trim_append_blank hreturn]

/-- A CR behind a text is one behind its last piece. -/
theorem pieces_append_return (cs : List Char) : ∃ earlier last,
    pieces '\n' cs = earlier ++ [last]
      ∧ pieces '\n' (cs ++ ['\r']) = earlier ++ [last ++ ['\r']] := by
  induction cs with
  | nil => exact ⟨[], [], rfl, rfl⟩
  | cons c cs ih =>
      obtain ⟨earlier, last, hcs, hreturn⟩ := ih
      by_cases hc : c = '\n'
      · refine ⟨[] :: earlier, last, ?_, ?_⟩
        · rw [pieces, if_pos hc, hcs, List.cons_append]
        · rw [List.cons_append, pieces, if_pos hc, hreturn, List.cons_append]
      · -- the character joins the first piece, which may be the last one as well
        rw [List.cons_append]
        simp only [pieces, if_neg hc, hcs, hreturn]
        cases earlier with
        | nil => exact ⟨[], c :: last, rfl, rfl⟩
        | cons first earlier => exact ⟨(c :: first) :: earlier, last, rfl, rfl⟩

theorem annotations_append_return (fragment : String) :
    annotations (fragment ++ "\r") = annotations fragment := by
  obtain ⟨earlier, last, hpieces, hreturn⟩ := pieces_append_return fragment.toList
  have htext : (fragment ++ "\r").toList = fragment.toList ++ ['\r'] := String.toList_append
  rw [annotations_eq_filterMap, annotations_eq_filterMap, htext, hpieces, hreturn,
    List.filterMap_append, List.filterMap_append, List.filterMap_cons, List.filterMap_cons,
    announced_append_return]

/-! ## §3. Fragments. -/

/-- What stands before an LF and what stands behind it are read apart. -/
theorem annotations_newline (before after : String) :
    annotations (before ++ "\n" ++ after) = annotations before ++ annotations after := by
  have hpieces : pieces '\n' (before ++ "\n" ++ after).toList
      = pieces '\n' before.toList ++ pieces '\n' after.toList := by
    have htext : (before ++ "\n" ++ after).toList
        = before.toList ++ '\n' :: after.toList := by simp
    rw [htext, pieces_eq_splitOn, pieces_eq_splitOn, pieces_eq_splitOn]
    exact List.splitOn_append_cons_self before.toList after.toList
  rw [annotations_eq_filterMap, hpieces, List.filterMap_append]
  rfl

/-- **One cut**, at either line break. -/
theorem annotations_cut (b : LineBreak) (before after : String) :
    annotations (before ++ b.text ++ after) = annotations before ++ annotations after := by
  cases b with
  | lf => exact annotations_newline before after
  | crlf =>
      -- the CR is the end of the fragment before the LF
      have htext : before ++ LineBreak.crlf.text ++ after
          = (before ++ "\r") ++ "\n" ++ after := by
        show before ++ ("\r" ++ "\n") ++ after = _
        rw [← String.append_assoc]
      rw [htext, annotations_newline, annotations_append_return]

/-- **All cuts.** -/
theorem annotations_joined (parts : List (String × LineBreak)) :
    annotations (joined parts) = parts.flatMap fun part => annotations part.1 := by
  induction parts with
  | nil => rfl
  | cons part later ih =>
      rw [List.flatMap_cons, ← ih]
      cases later with
      | nil =>
          show annotations part.1 = annotations part.1 ++ []
          rw [List.append_nil]
      | cons next later => exact annotations_cut part.2 part.1 _

/-- The line breaks of a comment may all be replaced. -/
theorem annotations_replaceBreaks (b : LineBreak) (comment : String) :
    annotations (replaceBreaks b comment) = annotations comment := by
  have hjoined : ∀ b : LineBreak, annotations (replaceBreaks b comment)
      = (pieces '\n' comment.toList).flatMap fun piece => annotations (String.ofList piece) := by
    intro b
    rw [← joined_pieces, annotations_joined, List.flatMap_map]
  rw [hjoined b, ← hjoined .lf, replaceBreaks_lf]

/-! ## §4. A reader that knows CRLF. -/

/-- The lines of a text behind a line that has begun. -/
def resumed (begun : List Char) : List (List Char) → List (List Char)
  | [] => [begun]
  | line :: later => (begun ++ line) :: later

/-- No line at all and one empty line announce the same: nothing. -/
theorem filterMap_resumed_nil (lines : List (List Char)) :
    (resumed [] lines).filterMap announced = lines.filterMap announced := by
  cases lines with
  | nil => rfl
  | cons line later => rw [resumed, List.nil_append]

/-- Lines and pieces announce the same: a piece differs from its line in a CR at its end,
and there may be an empty piece more. -/
theorem announced_lines (cs : List Char) : ∀ begun : List Char,
    (resumed begun (lines cs)).filterMap announced
      = (resumed begun (pieces '\n' cs)).filterMap announced := by
  induction cs with
  | nil =>
      intro begun
      show [begun].filterMap announced = [begun ++ []].filterMap announced
      rw [List.append_nil]
  | cons c cs ih =>
      intro begun
      by_cases hc : c = '\n'
      · have htail : (lines cs).filterMap announced
            = (pieces '\n' cs).filterMap announced := by
          rw [← filterMap_resumed_nil, ih [], filterMap_resumed_nil]
        rw [lines, if_pos hc, pieces, if_pos hc, resumed, resumed, List.filterMap_cons,
          List.filterMap_cons, htail]
      · by_cases hreturn : c = '\r' ∧ cs.head? = some '\n'
        · obtain ⟨rfl, hhead⟩ := hreturn
          obtain ⟨rest, rfl⟩ : ∃ rest, cs = '\n' :: rest := by
            cases cs with
            | nil => cases hhead
            | cons x rest => exact ⟨rest, by rw [Option.some.inj hhead]⟩
          have hcut : pieces '\n' ('\r' :: '\n' :: rest) = ['\r'] :: pieces '\n' rest := rfl
          have hline : pieces '\n' ('\n' :: rest) = [] :: pieces '\n' rest := rfl
          rw [lines, if_neg hc, if_pos ⟨rfl, rfl⟩, ih begun, hcut, hline, resumed, resumed,
            List.filterMap_cons, List.filterMap_cons, announced_append_return, List.append_nil]
        · -- any other character belongs to the line that has begun
          have hlines : resumed begun (lines (c :: cs)) = resumed (begun ++ [c]) (lines cs) := by
            rw [lines, if_neg hc, if_neg hreturn]
            cases lines cs <;> simp [resumed]
          have hpieces : resumed begun (pieces '\n' (c :: cs))
              = resumed (begun ++ [c]) (pieces '\n' cs) := by
            rw [pieces, if_neg hc]
            cases pieces '\n' cs <;> simp [resumed]
          rw [hlines, hpieces, ih]

theorem annotations_eq_lines (comment : String) :
    annotations comment = (lines comment.toList).filterMap announced := by
  rw [annotations_eq_filterMap, ← filterMap_resumed_nil, ← announced_lines,
    filterMap_resumed_nil]

end Comment

/-! ## §5. Parts that are recorded one after the other. -/

namespace AnnotationTable

theorem put_put (id : DeclId) (as bs : List Annotation) (rows : List (DeclId × List Annotation)) :
    put id bs (put id as rows) = put id bs rows := by
  induction rows with
  | nil => simp [put]
  | cons row rows ih =>
      by_cases hrow : row.1 = id
      · simp [put, hrow]
      · simp [put, hrow, ih]

/-- Recording twice is recording once what stands one behind the other. -/
theorem record_record (t : AnnotationTable) (id : DeclId) (as bs : List Annotation) :
    (t.record id as).record id bs = t.record id (as ++ bs) := by
  have hlookup : (t.record id as).lookup id = t.lookup id ++ as := by
    rw [lookup_record, if_pos rfl]
  rw [record, hlookup, record, record, replace, replace, replace, put_put, List.append_assoc]

theorem foldl_record_parts (id : DeclId) (later : List (String × Text.LineBreak)) :
    ∀ (t : AnnotationTable) (as : List Annotation),
      later.foldl (fun t part => t.record id (Comment.annotations part.1)) (t.record id as)
        = t.record id (as ++ later.flatMap fun part => Comment.annotations part.1) := by
  induction later with
  | nil =>
      intro t as
      show t.record id as = t.record id (as ++ [])
      rw [List.append_nil]
  | cons part later ih =>
      intro t as
      rw [List.foldl_cons, record_record, ih, List.flatMap_cons, List.append_assoc]

end AnnotationTable

/-- A declaration with the line breaks of its comment replaced. -/
def Decl.replaceBreaks (b : Text.LineBreak) (d : Decl) : Decl :=
  { d with comment := d.comment.map (Text.replaceBreaks b) }

/-- A unit with the line breaks of all its comments replaced. -/
def SourceUnit.replaceBreaks (b : Text.LineBreak) (u : SourceUnit) : SourceUnit :=
  { u with decls := u.decls.map (Decl.replaceBreaks b) }

theorem Decl.annotations_replaceBreaks (b : Text.LineBreak) (d : Decl) :
    (d.replaceBreaks b).annotations = d.annotations := by
  unfold annotations replaceBreaks
  cases d.comment with
  | none => rfl
  | some comment => exact Comment.annotations_replaceBreaks b comment

theorem SourceUnit.announcements_replaceBreaks (b : Text.LineBreak) (u : SourceUnit) :
    (u.replaceBreaks b).announcements = u.announcements := by
  have hrow : (fun d : Decl => (d.id, d.annotations)) ∘ Decl.replaceBreaks b
      = fun d => (d.id, d.annotations) := by
    funext d
    show (d.id, (d.replaceBreaks b).annotations) = _
    rw [d.annotations_replaceBreaks b]
  unfold announcements replaceBreaks
  rw [List.map_map, hrow]

/-! ## §6. THE FRAGMENT THEOREM. -/

namespace Comment

open Text

/-- **Fragments joined by any mix of LF and CRLF** announce what they announce one after
the other, to a reader that cuts at every LF as to one that knows CRLF.  So the line breaks
of a comment, or of all comments of a unit, may be replaced; and a comment may be split at
any of them and its parts recorded one after the other. -/
theorem annotations_by_fragment :
    (∀ parts : List (String × LineBreak),
      annotations (joined parts) = parts.flatMap fun part => annotations part.1)
    ∧ (∀ comment : String, annotations comment
        = (lines comment.toList).filterMap fun line => annotation? (content line))
    ∧ (∀ (b : LineBreak) (comment : String),
        annotations (replaceBreaks b comment) = annotations comment)
    ∧ (∀ (b : LineBreak) (u : SourceUnit) (t : AnnotationTable),
        (u.replaceBreaks b).collectInto t = u.collectInto t
        ∧ (u.replaceBreaks b).collectionEvents = u.collectionEvents)
    ∧ ∀ (t : AnnotationTable) (id : DeclId) (part : String × LineBreak)
        (later : List (String × LineBreak)),
        (part :: later).foldl (fun t part => t.record id (annotations part.1)) t
          = t.record id (annotations (joined (part :: later))) := by
  refine ⟨annotations_joined, annotations_eq_lines, annotations_replaceBreaks, ?_, ?_⟩
  · intro b u t
    have hrows := u.announcements_replaceBreaks b
    unfold SourceUnit.collectInto SourceUnit.collectionEvents
    rw [hrows]
    exact ⟨rfl, rfl⟩
  · intro t id part later
    rw [List.foldl_cons, AnnotationTable.foldl_record_parts, annotations_joined,
      List.flatMap_cons]

/-- A CR that no LF follows is no line break, though it is a blank. -/
example : annotations "// @note a\r// @export" = [⟨"note", some "a\r// @export"⟩]
    ∧ annotations "// @note a\r\n// @export\r" = [⟨"note", some "a"⟩, ⟨"export", none⟩] := by
  decide

end Comment

end DeclExport
