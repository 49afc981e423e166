/-
  DeclExport.Proofs.Export.Tokens
  ────────────────────────────────
  **WHAT AN EXPORTED DOCUMENT IS READ AS.**

  A block is a group with its term, and what it holds is a phrase.  So a reader
  that takes literals as they come, and knows of nothing but delimiters, finds in
  every exported document, with `_` a space and `⏎` a line feed:

      <preamble>          its characters
      ⏎__ group _::       for each entry
      ⏎__nil.⏎⏎           once

  whatever the strings of the source hold.  The literals come in the order of the
  source strings, each as it is laid out (`Outlined.tokens`).  That is the string
  itself, unless there is a line feed in it.
-/
import DeclExport.Export.Run
import DeclExport.Proofs.Export.Blocks
import DeclExport.Proofs.Export.Building
import DeclExport.Proofs.Term.Inscriptions

namespace DeclExport

open Text Term Glyph

/-! ## §1. The tokens of blocks. -/

namespace DocumentShape

/-- The strings of an entry: its name if it is written, and those of its term. -/
def inscriptions : DocumentShape → String → Outline → List Inscription
  | .namedPairs, name, o => ⟨1, name⟩ :: o.inscriptions 2
  | .terms, _, o => o.inscriptions 1

theorem phrase_interior (shape : DocumentShape) (name : String) (o : Outline) :
    Phrase (shape.interior name o) (shape.inscriptions name o) := by
  cases shape with
  | namedPairs =>
      have hterm : Phrase (⟨1, ','⟩ :: ⟨2, '\n'⟩ :: o.glyphs 2) (o.inscriptions 2) :=
        .plain (by decide) (.plain (by decide) (o.phrase_outline 2))
      exact .literal (unquoted_cons (by decide) _) hterm
  | terms => exact o.phrase_outline 1

/-- What stands outside of all delimiters in an entry. -/
def entryItems : List Item :=
  "\n  ".toList.map .mark ++ .group .paren :: " ::".toList.map .mark

/-- What stands outside of all delimiters behind the last entry. -/
def closingItems : List Item := "\n  nil.\n\n".toList.map .mark

/-- **A block is read as one group** with `::` behind it. -/
theorem reading_block (shape : DocumentShape) (name : String) (o : Outline) {gs : List Glyph}
    {is : List Inscription} {us : Bool → List Token} (h : Reading gs is us) :
    ∃ ts, Reading (shape.block name o ++ gs) (shape.inscriptions name o ++ is) ts
      ∧ ∀ p, outside [] (ts p) = (outside [] (us false)).map (entryItems ++ ·) := by
  have hinterior := phrase_interior shape name o
  obtain ⟨ts, hts⟩ := hinterior.reading
  -- the group is read from the inside, with `::` and the rest behind it
  have hgroup := Reading.group .paren 1 1 hinterior.begins_ne_star hts
    (h.plain (row 1 " ::".toList) (by decide))
  have hblock := hgroup.plain [⟨1, '\n'⟩] (by decide)
  have hglyphs : shape.block name o ++ gs
      = [⟨1, '\n'⟩] ++ (row 1 Delimiter.paren.opener ++ (shape.interior name o
        ++ (row 1 Delimiter.paren.closer ++ (row 1 " ::".toList ++ gs)))) := by
    have hclose : row 1 ") ::".toList
        = row 1 Delimiter.paren.closer ++ row 1 " ::".toList := rfl
    rw [block, hclose]
    simp [Delimiter.opener]
  rw [hglyphs]
  have hnested := (hts.nested false).append
    (nested_marks (padding (pendingAfter false (shape.interior name o)) 1))
  refine ⟨_, hblock, fun p => ?_⟩
  -- the line break, the padding of the entry, the group, and what is behind it
  show outside [] (['\n'].map .mark ++ ([' ', ' '].map .mark
    ++ (enclosed .paren _ ++ (" ::".toList.map .mark ++ us false)))) = _
  rw [outside_marks, outside_marks, outside_enclosed hnested, outside_marks]
  cases outside [] (us false) <;> rfl

/-- **Blocks are read one after the other**, and then the terminator. -/
theorem reading_blocks (shape : DocumentShape) (ps : List (String × Outline)) :
    ∃ ts, Reading (shape.blocks ps) (ps.flatMap fun p => shape.inscriptions p.1 p.2) ts
      ∧ ∀ p, outside [] (ts p)
        = some ((List.replicate ps.length entryItems).flatten ++ closingItems) := by
  -- from the terminator to the first block
  induction ps with
  | nil =>
      have hterminator := Reading.nil.plain terminator (by decide)
      rw [List.append_nil] at hterminator
      refine ⟨_, hterminator, fun p => ?_⟩
      show outside [] ("\n  nil.\n\n".toList.map .mark ++ []) = _
      rw [outside_marks]
      rfl
  | cons p ps ih =>
      obtain ⟨us, hus, houter⟩ := ih
      obtain ⟨ts, hts, hblock⟩ := reading_block shape p.1 p.2 hus
      refine ⟨ts, hts, fun q => ?_⟩
      rw [hblock, houter, List.length_cons, List.replicate_succ, List.flatten_cons,
        List.append_assoc]
      rfl

theorem all_isPlain_preamble (shape : DocumentShape) :
    shape.preamble.toList.all isPlain = true := by
  have hheader : shape.header.toList.all isPlain = true := by
    cases shape <;> decide
  simp only [preamble, String.intercalate_cons_cons, String.intercalate_singleton,
    String.toList_append, List.all_append, Bool.and_eq_true, and_assoc]
  refine ⟨?_, ?_, ?_, ?_, ?_, ?_, ?_, ?_, ?_, ?_, hheader⟩ <;> decide

end DocumentShape

/-- **The tokens of a document of rendered terms.** -/
theorem Outlined.tokens {m : Module} {shape : DocumentShape} {s : Sink}
    {ps : List (String × Outline)} (hps : Outlined m.entries ps)
    (h : (m.assemble shape s).2 = none) :
    ∃ body ts, (m.assemble shape s).1.text = s.text ++ (shape.preamble ++ body)
      ∧ Text.tokens (shape.preamble ++ body).toList = some ts
      ∧ .comment ∉ ts
      ∧ literals ts = (ps.flatMap fun p => shape.inscriptions p.1 p.2).map (·.laidOut)
      ∧ outside [] ts = some (shape.preamble.toList.map .mark
          ++ ((List.replicate m.size DocumentShape.entryItems).flatten
          ++ DocumentShape.closingItems)) := by
  obtain ⟨ts, hts, houter⟩ := DocumentShape.reading_blocks shape ps
  have hread := hts.read false [] (by simp)
  have hsize : m.size = ps.length := hps.length_eq
  refine ⟨_, shape.preamble.toList.map .mark ++ ts false, hps.assemble_text h, ?_, ?_, ?_, ?_⟩
  · rw [String.toList_append, String.toList_ofList,
      tokens_plain_append (DocumentShape.all_isPlain_preamble shape)]
    rw [List.append_nil] at hread
    rw [hread]
    simp [Text.tokens]
  · simpa using hts.no_comment false
  · simp [hts.literals]
  · rw [outside_marks, houter, hsize]
    rfl

/-! ## §2. The outlines of an export. -/

/-- The modules that are built of rendered terms. -/
theorem Module.isRendered_of_build {filter : Filter} {cx : Context} {m : Module}
    (h : (build filter cx renderTerm).2 = .ok m) : ∀ e ∈ m.entries, e.IsRendered := by
  rw [build_result] at h
  obtain ⟨_, rfl⟩ := (insertAll_eq_ok_iff _ m).mp h
  intro e he
  obtain ⟨d, _, hd⟩ := List.mem_filterMap.mp ((Entry.sublist_firsts _).subset he)
  cases hr : rendering filter cx renderTerm d with
  | error failure => simp [entryOf, hr] at hd
  | ok r =>
      simp only [entryOf, hr, Option.some.injEq] at hd
      exact ⟨d, _, _, r, hr, by rw [← hd]⟩

namespace SourceUnit

/-- The names and outlines of the declarations that the options select. -/
def outlines (u : SourceUnit) (o : ExportOptions) : List (String × Outline) :=
  (Module.included o.filter u.context).filterMap fun d =>
    (outline? d (o.filter.verdict u.context d) u.context.annotations).map (d.qualifiedName, ·)

/-- The source strings that an export writes, in the order of writing. -/
def inscriptions (u : SourceUnit) (o : ExportOptions) : List Inscription :=
  (u.outlines o).flatMap fun p => o.shape.inscriptions p.1 p.2

theorem depth_pos_of_mem_inscriptions {u : SourceUnit} {o : ExportOptions} {i : Inscription}
    (hi : i ∈ u.inscriptions o) : 0 < i.depth := by
  obtain ⟨⟨name, outline⟩, _, hi⟩ := List.mem_flatMap.mp hi
  cases hshape : o.shape with
  | namedPairs =>
      rw [hshape] at hi
      rcases List.mem_cons.mp hi with rfl | hi
      · exact Nat.one_pos
      · have hdepth := outline.le_depth 2 i hi
        omega
  | terms =>
      rw [hshape] at hi
      exact outline.le_depth 1 i hi

/-- The module of a valid unit has an entry for each declaration that is selected. -/
theorem outlined_outlines {u : SourceUnit} {o : ExportOptions} {m : Module}
    (hvalid : u.fault? = none) (h : (u.exportedModule o renderTerm).2 = .ok m) :
    Outlined m.entries (u.outlines o) := by
  rw [exportedModule, Module.build_result] at h
  obtain ⟨hfree, rfl⟩ := (Module.insertAll_eq_ok_iff _ m).mp h
  -- no entry replaces another, since identities are distinct
  have hnodup : ((Module.included o.filter u.context).map (·.id)).Nodup :=
    (nodup_decl_ids_of_valid hvalid).sublist (List.filter_sublist.map _)
  -- a declaration without an outline has no entry, every other one has its own
  have hentry : ∀ d, (Module.entryOf (Module.rendering o.filter u.context renderTerm) d).map
        (fun e => (e.name, e.term))
      = ((outline? d (o.filter.verdict u.context d) u.context.annotations).map
          (d.qualifiedName, ·)).map fun p => (p.1, p.2.term) := by
    intro d
    cases houtline : outline? d (o.filter.verdict u.context d) u.context.annotations with
    | none =>
        obtain ⟨e, he⟩ := renderTerm_of_outline?_eq_none houtline
        simp [Module.entryOf, Module.rendering, he]
    | some outline =>
        have hr := renderTerm_eq_ok_iff.mpr ⟨outline, houtline, rfl⟩
        simp [Module.entryOf, Module.rendering, hr]
  rw [Outlined, Module.entries_ofDecls_of_nodup hnodup hfree, outlines, List.map_filterMap,
    List.map_filterMap]
  simp only [hentry]

/-- An export that comes through has assembled its module. -/
theorem exportDocument_of_success {u : SourceUnit} {o : ExportOptions} {render : Renderer}
    {s : Sink} (h : (u.exportDocument o render s).failure = none) :
    ∃ m, (u.exportedModule o render).2 = .ok m ∧ (m.assemble o.shape s).2 = none
      ∧ (u.exportDocument o render s).sink = (m.assemble o.shape s).1 := by
  unfold exportDocument at h ⊢
  cases hmodule : u.exportedModule o render with
  | mk log result =>
      rw [hmodule] at h
      cases result with
      | error failure => exact absurd h (by simp)
      | ok m => exact ⟨m, rfl, h, rfl⟩

/-! ## §3. THE READING THEOREMS. -/

/-- **Exported documents are well formed**, on every unit and for all options: every
literal is closed, delimiters match, no comment begins outside of a literal, and
outside of all delimiters there is the preamble, for each entry of the module one
group and `::`, and the terminator. -/
theorem exportDocument_wellFormed {u : SourceUnit} {o : ExportOptions} {s : Sink}
    (h : (u.exportDocument o renderTerm s).failure = none) :
    ∃ m body ts, (u.exportedModule o renderTerm).2 = .ok m
      ∧ (u.exportDocument o renderTerm s).sink.text = s.text ++ (o.shape.preamble ++ body)
      ∧ tokens (o.shape.preamble ++ body).toList = some ts
      ∧ .comment ∉ ts
      ∧ outside [] ts = some (o.shape.preamble.toList.map .mark
          ++ ((List.replicate m.size DocumentShape.entryItems).flatten
          ++ DocumentShape.closingItems)) := by
  obtain ⟨m, hm, hassemble, hsink⟩ := exportDocument_of_success h
  obtain ⟨ps, hps⟩ := exists_outlined (Module.isRendered_of_build hm)
  obtain ⟨body, ts, htext, htokens, hcomment, _, houter⟩ := hps.tokens hassemble
  exact ⟨m, body, ts, hm, by rw [hsink, htext], htokens, hcomment, houter⟩

/-- A unit of one synonym in its main file. -/
def ofSynonym (name : String) (t : Ty) : SourceUnit :=
  ⟨[⟨⟨0⟩, "m.cpp", .main, none⟩],
    [⟨⟨1⟩, name, [], some ⟨⟨0⟩, 1, 1⟩, none, .typedef t⟩]⟩

/-- Strings that close literals, open comments and imitate a terminator. -/
theorem exportDocument_wellFormed_of_imitation :
    ((ofSynonym "f\" |\x7d (*" (.named "]) ::\n  nil. \"")).exportDocument
        ⟨.namedPairs, .min, none, []⟩ renderTerm .unbounded).failure = none
      ∧ ∃ ts, tokens ((ofSynonym "f\" |\x7d (*" (.named "]) ::\n  nil. \"")).exportDocument
          ⟨.namedPairs, .min, none, []⟩ renderTerm .unbounded).sink.text.toList = some ts
        ∧ .comment ∉ ts ∧ (outside [] ts).isSome := by
  have hsuccess : ((ofSynonym "f\" |\x7d (*" (.named "]) ::\n  nil. \"")).exportDocument
      ⟨.namedPairs, .min, none, []⟩ renderTerm .unbounded).failure = none := by
    decide +kernel
  obtain ⟨m, body, ts, _, htext, htokens, hcomment, houter⟩ := exportDocument_wellFormed hsuccess
  refine ⟨hsuccess, ts, ?_, hcomment, by rw [houter]; rfl⟩
  rw [htext]
  exact htokens

/-- **The literals of an exported document** are the source strings as they are laid
out, in order; they are the source strings themselves exactly if no line feed is in
any of them. -/
theorem exportDocument_literals {u : SourceUnit} {o : ExportOptions} {s : Sink}
    (hvalid : u.fault? = none) (h : (u.exportDocument o renderTerm s).failure = none) :
    ∃ document ts, (u.exportDocument o renderTerm s).sink.text = s.text ++ document
      ∧ tokens document.toList = some ts
      ∧ literals ts = (u.inscriptions o).map (·.laidOut)
      ∧ (literals ts = (u.inscriptions o).map (·.text)
        ↔ ∀ i ∈ u.inscriptions o, '\n' ∉ i.text.toList) := by
  obtain ⟨m, hm, hassemble, hsink⟩ := exportDocument_of_success h
  obtain ⟨body, ts, htext, htokens, _, hliterals, _⟩ :=
    (outlined_outlines hvalid hm).tokens hassemble
  refine ⟨_, ts, by rw [hsink, htext], htokens, hliterals, ?_⟩
  rw [hliterals]
  show (u.inscriptions o).map _ = _ ↔ _
  -- every literal of a document stands in a scope
  rw [List.map_inj_left]
  exact forall₂_congr fun i hi =>
    Inscription.laidOut_eq_text_iff (depth_pos_of_mem_inscriptions hi)

/-- A name with a line feed comes out in two ways, and in neither as it is. -/
theorem exportDocument_literals_of_line_feed :
    (ofSynonym "a\nb" .bool).fault? = none
      ∧ ((ofSynonym "a\nb" .bool).exportDocument ⟨.namedPairs, .min, none, []⟩ renderTerm
          .unbounded).failure = none
      ∧ ∃ ts, tokens ((ofSynonym "a\nb" .bool).exportDocument ⟨.namedPairs, .min, none, []⟩
            renderTerm .unbounded).sink.text.toList = some ts
        ∧ literals ts = ["a\n  b", "a\n    b"]
        ∧ literals ts ≠ ((ofSynonym "a\nb" .bool).inscriptions
            ⟨.namedPairs, .min, none, []⟩).map (·.text) := by
  have hvalid : (ofSynonym "a\nb" .bool).fault? = none := by decide +kernel
  have hsuccess : ((ofSynonym "a\nb" .bool).exportDocument ⟨.namedPairs, .min, none, []⟩
      renderTerm .unbounded).failure = none := by
    decide +kernel
  have hstrings : (ofSynonym "a\nb" .bool).inscriptions ⟨.namedPairs, .min, none, []⟩
      = [⟨1, "a\nb"⟩, ⟨2, "a\nb"⟩] := by
    decide +kernel
  obtain ⟨document, ts, htext, htokens, hliterals, hunaltered⟩ :=
    exportDocument_literals hvalid hsuccess
  rw [hstrings] at hliterals hunaltered
  refine ⟨hvalid, hsuccess, ts, ?_, ?_, fun heq => ?_⟩
  · rw [htext]
    exact htokens
  · rw [hliterals]
    decide +kernel
  · rw [hstrings] at heq
    exact absurd (hunaltered.mp heq ⟨1, "a\nb"⟩ (by simp)) (by decide)

end SourceUnit

end DeclExport
