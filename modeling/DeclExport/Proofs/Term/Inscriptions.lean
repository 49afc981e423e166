/-
  DeclExport.Proofs.Term.Inscriptions
  ────────────────────────────────
  **THE STRINGS IN THE TERM OF A DECLARATION.**

  The term of a declaration opens scopes, so its strings come with the depth that
  their literals are laid out at:

      Dfunction "f"                        f          at depth 0
        {| f_return := (Tnamed "T");       T          one scope deeper
           …
           f_body := Some
          (Sseq [                          the body   two scopes deeper
            …

  Statements and outlines are phrases with just these literals
  (`phrase_stmt`, `phrase_outline`): delimiters are opened and closed in
  different steps and at different depths, but never across one another.
-/
import DeclExport.Proofs.Term.Outline
import DeclExport.Proofs.Term.Spelling

namespace DeclExport

open Text Glyph Step

/-! ## §1. The strings of statements. -/

mutual

/-- The strings of a statement that is laid out at a depth. -/
def Stmt.inscriptions : Nat → Stmt → List Inscription
  | d, .ret value => Inscription.row d (value.toList.flatMap Expr.strings)
  | d, .eval e => Inscription.row d e.strings
  | d, .block body => Stmt.inscriptionsAll (d + 1) body
  | d, .branch cond yes none =>
      Inscription.row d cond.strings ++ yes.inscriptions (d + 1)
  | d, .branch cond yes (some no) =>
      Inscription.row d cond.strings
        ++ (yes.inscriptions (d + 1) ++ no.inscriptions (d + 1))
  | d, .loop cond body => Inscription.row d cond.strings ++ body.inscriptions (d + 1)
  | d, .declare name t init =>
      Inscription.row d (name :: (t.strings ++ init.toList.flatMap Expr.strings))

/-- The strings of statements one after the other. -/
def Stmt.inscriptionsAll : Nat → List Stmt → List Inscription
  | _, [] => []
  | d, s :: ss => s.inscriptions d ++ Stmt.inscriptionsAll d ss

end

namespace Term

/-! ## §2. Statements are phrases. -/

theorem isPlain_newline : isPlain '\n' = true := by decide

/-- A line that begins with a phrase. -/
theorem phrase_line (d : Nat) {gs : List Glyph} {is : List Inscription} (h : Phrase gs is) :
    Phrase (⟨d, '\n'⟩ :: gs) is := .plain isPlain_newline h

/-- A statement that is laid out as one text. -/
theorem phrase_text {text : String} {ss : List String} (h : Spells text ss) (d : Nat) :
    Phrase (glyphs d [.text text]) (Inscription.row d ss) := by
  simpa using h d

/-- A plain word and a phrase between parentheses. -/
theorem phrase_headed (lead word : String) (hlead : lead.toList = '(' :: word.toList)
    (hword : word.toList.all isPlain = true) (d : Nat) {gs : List Glyph}
    {is : List Inscription} (h : Phrase gs is) :
    Phrase (row d lead.toList ++ (gs ++ [⟨d, ')'⟩])) is := by
  have hinner : Phrase (row d word.toList ++ gs) is := h.plain_append hword d
  have hgroup := Phrase.group (d := d) (e := d) .paren hinner .nil
  rw [hlead]
  simpa [Delimiter.opener, Delimiter.closer] using hgroup

theorem unquoted_stmtTail (d : Nat) (ss : List Stmt) : Unquoted (glyphs d (stmtTail ss)) := by
  cases ss with
  | nil => exact unquoted_nil
  | cons s ss =>
      rw [Stmt.glyphs_stmtTail_cons]
      exact unquoted_cons (by decide) _

/-- The brackets of a block. -/
theorem phrase_block (d : Nat) {gs : List Glyph} {is : List Inscription} (h : Phrase gs is) :
    Phrase (row d "(Sseq [".toList ++ (gs ++ (row d [']'] ++ [⟨d, ')'⟩]))) is := by
  have hlist := Phrase.group (d := d) (e := d) .bracket h .nil
  have hblock := phrase_headed "(Sseq " "Sseq " rfl (by decide) d hlist
  simpa [Delimiter.opener, Delimiter.closer] using hblock

/-- A condition, and a line for each branch. -/
theorem phrase_branch (cond : Expr) (d : Nat) {gs hs : List Glyph} {is js : List Inscription}
    (hyes : Phrase gs is) (hno : Phrase hs js) :
    Phrase (row d "(Sif ".toList
        ++ ((row d (expr cond).toList ++ (⟨d + 1, '\n'⟩ :: (gs ++ (⟨d + 1, '\n'⟩ :: hs))))
          ++ [⟨d, ')'⟩]))
      (Inscription.row d cond.strings ++ (is ++ js)) := by
  have hbranches := phrase_line (d + 1)
    (hyes.append (unquoted_cons (by decide) _) (phrase_line (d + 1) hno))
  have hinside := (spells_expr cond d).append (unquoted_cons (by decide) _) hbranches
  exact phrase_headed "(Sif " "Sif " rfl (by decide) d hinside

mutual

/-- **A statement is a phrase**, with the strings of the statement. -/
theorem phrase_stmt : ∀ (s : Stmt) (d : Nat), Phrase (glyphs d (stmt s)) (s.inscriptions d)
  | .ret value, d => by
      have hinside : Spells ("Sreturn " ++ option (value.map expr))
          (value.toList.flatMap Expr.strings) :=
        (spells_option_expr value).plain_append (by decide)
      refine phrase_text (hinside.enclosed .paren ?_) d
      simp [Delimiter.opener, Delimiter.closer]
  | .eval e, d => by
      have hinside : Spells ("Sexpr " ++ expr e) e.strings :=
        (spells_expr e).plain_append (by decide)
      refine phrase_text (hinside.enclosed .paren ?_) d
      simp [Delimiter.opener, Delimiter.closer]
  | .block [], d => by
      have hblock := phrase_block d .nil
      rw [Stmt.glyphs_stmt]
      simpa [Stmt.shape, Stmt.Shape.lead, Stmt.inside, Stmt.inscriptions,
        Stmt.inscriptionsAll] using hblock
  | .block (s :: ss), d => by
      -- a literal at the end of a statement meets `;` or the closing bracket
      have hbody := phrase_line (d + 1)
        ((phrase_stmt s (d + 1)).append (unquoted_stmtTail _ ss) (phrase_stmtTail ss (d + 1)))
      have hblock := phrase_block d hbody
      rw [Stmt.glyphs_stmt]
      simpa [Stmt.shape, Stmt.Shape.lead, Stmt.inside, Stmt.inscriptions,
        Stmt.inscriptionsAll] using hblock
  | .branch cond yes none, d => by
      -- a branch that is missing is written as a statement of its own
      have hskip : Phrase (row (d + 1) "Sskip".toList) [] := spells_plain (by decide) (d + 1)
      have hif := phrase_branch cond d (phrase_stmt yes (d + 1)) hskip
      rw [Stmt.glyphs_stmt]
      simpa [Stmt.shape, Stmt.Shape.lead, Stmt.inside, Stmt.otherwise,
        Stmt.inscriptions] using hif
  | .branch cond yes (some no), d => by
      have hif := phrase_branch cond d (phrase_stmt yes (d + 1)) (phrase_stmt no (d + 1))
      rw [Stmt.glyphs_stmt]
      simpa [Stmt.shape, Stmt.Shape.lead, Stmt.inside, Stmt.otherwise,
        Stmt.inscriptions] using hif
  | .loop cond body, d => by
      have hbody := phrase_line (d + 1) (phrase_stmt body (d + 1))
      have hinside := (spells_expr cond d).append (unquoted_cons (by decide) _) hbody
      have hloop := phrase_headed "(Swhile " "Swhile " rfl (by decide) d hinside
      rw [Stmt.glyphs_stmt]
      simpa [Stmt.shape, Stmt.Shape.lead, Stmt.inside, Stmt.inscriptions] using hloop
  | .declare name t init, d => by
      have hwords := spells_intercalate " " rfl (by decide)
        (.cons (spells_quoted name) (.cons (spells_ty t) (.cons (spells_option_expr init) .nil)))
      have hinside : Spells
          ("Sdecl " ++ " ".intercalate [quoted name, ty t, option (init.map expr)])
          (name :: (t.strings ++ init.toList.flatMap Expr.strings)) := by
        have hspells := hwords.plain_append (w := "Sdecl ") (by decide)
        simpa using hspells
      refine phrase_text (hinside.enclosed .paren ?_) d
      simp [Delimiter.opener, Delimiter.closer]

theorem phrase_stmtTail : ∀ (ss : List Stmt) (d : Nat),
    Phrase (glyphs d (stmtTail ss)) (Stmt.inscriptionsAll d ss)
  | [], _ => .nil
  | s :: ss, d => by
      rw [Stmt.glyphs_stmtTail_cons]
      exact .plain (by decide) (phrase_line d
        ((phrase_stmt s d).append (unquoted_stmtTail d ss) (phrase_stmtTail ss d)))

end

/-! ## §3. Parts of a declaration are phrases. -/

theorem spells_option_quoted (o : Option String) :
    Spells (option (o.map quoted)) o.toList := by
  have hspells : Spells (option (o.map quoted)) (o.toList.flatMap fun s => [s]) :=
    spells_option spells_quoted o
  simpa using hspells

/-- A constant of an enumeration. -/
theorem spells_constant (c : String × Int64) : Spells (constant c) [c.1] :=
  spells_pair c.1 (spells_int c.2.toInt)

/-- A clause with its end: the next one begins a line, at the same depth or deeper. -/
theorem phrase_clause {w : List Char} (hw : w.all isPlain = true) (d e : Nat)
    {gs rest : List Glyph} {is js : List Inscription} (h : Phrase gs is)
    (hrest : Phrase rest js) :
    Phrase (row d w ++ (gs ++ (row d ";".toList ++ (⟨e, '\n'⟩ :: rest)))) (is ++ js) := by
  have hnext : Phrase (row d ";".toList ++ (⟨e, '\n'⟩ :: rest)) js :=
    (phrase_line e hrest).plain_append (by decide) d
  exact (h.append (unquoted_cons (by decide) _) hnext).plain_append hw d

/-- The two clauses of a contract stand in different scopes, and the braces around
them do. -/
theorem phrase_contract (requires ensures : Option String) (d : Nat) :
    Phrase (glyphs d (contract requires ensures))
      (Inscription.row d requires.toList ++ Inscription.row (d + 1) ensures.toList) := by
  by_cases hnone : requires = none ∧ ensures = none
  · rw [hnone.1, hnone.2, glyphs_contract_none]
    exact spells_plain (by decide) d
  · have hopen : "Some \x7b| s_requires := ".toList
        = "Some ".toList ++ (Delimiter.brace.opener ++ " s_requires := ".toList) := rfl
    have hclose : " |\x7d".toList = ' ' :: Delimiter.brace.closer := rfl
    -- from the closing brace to the opening one
    have hend : Phrase [⟨d + 1, ' '⟩] [] := .plain (by decide) .nil
    have hensures := ((spells_option_quoted ensures (d + 1)).append
      (unquoted_cons (by decide) _) hend).plain_append (w := "s_ensures := ".toList)
        (by decide) (d + 1)
    have hclauses := phrase_clause (w := " s_requires := ".toList) (by decide) d (d + 1)
      (spells_option_quoted requires d) hensures
    have hbraces := (Phrase.group (d := d) (e := d + 1) .brace hclauses .nil).plain_append
      (w := "Some ".toList) (by decide) d
    rw [glyphs_contract hnone, hopen, hclose]
    simp only [Glyph.row_append, row_cons, List.append_assoc, List.cons_append,
      List.nil_append, List.append_nil] at hbraces ⊢
    exact hbraces

/-- The fields of a record after the first, up to the closing bracket. -/
theorem phrase_fieldTail (bs : List Binder) (d : Nat) :
    ∃ gs, glyphs d (fieldTail bs) = gs ++ row d [']'] ∧ Unquoted gs
      ∧ Phrase gs (Inscription.row d (bs.flatMap Binder.strings)) := by
  induction bs with
  | nil => exact ⟨row d " ".toList, rfl, unquoted_cons (by decide) _, spells_plain (by decide) d⟩
  | cons b bs ih =>
      obtain ⟨gs, hgs, hquote, htail⟩ := ih
      have hline := phrase_line d (((spells_binder b d).append hquote htail).plain_append
        (w := "; ".toList) (by decide) d)
      refine ⟨⟨d, '\n'⟩ :: (row d "; ".toList ++ (row d (binder b).toList ++ gs)), ?_,
        unquoted_cons (by decide) _, ?_⟩
      · rw [glyphs_fieldTail_cons, hgs]
        simp
      · rw [List.flatMap_cons, Inscription.row_append]
        exact hline

/-- The fields of a record. -/
theorem phrase_fields (bs : List Binder) (d : Nat) :
    Phrase (glyphs d (fields bs)) (Inscription.row d (bs.flatMap Binder.strings)) := by
  cases bs with
  | nil => exact Phrase.group (d := d) (e := d) .bracket .nil .nil
  | cons b bs =>
      -- the bracket is opened here and closed by the last field
      obtain ⟨gs, hgs, hquote, htail⟩ := phrase_fieldTail bs d
      have hitems := ((spells_binder b d).append hquote htail).plain_append
        (w := " ".toList) (by decide) d
      have hlist := Phrase.group (d := d) (e := d) .bracket hitems .nil
      rw [glyphs_fields_cons, hgs, List.flatMap_cons, Inscription.row_append]
      simpa [Delimiter.opener, Delimiter.closer] using hlist

namespace Outline

/-! ## §4. Outlines are phrases. -/

/-- The strings of an outline that is laid out at a depth: the name, and what stands
in the scopes that it opens. -/
def inscriptions (d : Nat) : Outline → List Inscription
  | .function name ret params requires ensures body =>
      ⟨d, name⟩ :: (Inscription.row (d + 1) ret.strings
        ++ (Inscription.row (d + 1) (params.flatMap Binder.strings)
        ++ (Inscription.row (d + 1) requires.toList
        ++ (Inscription.row (d + 2) ensures.toList
        ++ body.toList.flatMap fun ss => (Stmt.block ss).inscriptions (d + 2)))))
  | .object name t init =>
      ⟨d, name⟩ :: (Inscription.row d t.strings
        ++ Inscription.row d (init.toList.flatMap Expr.strings))
  | .record _ name fields =>
      ⟨d, name⟩ :: fields.toList.flatMap fun fs =>
        Inscription.row (d + 1) (fs.flatMap Binder.strings)
  | .enumeration name constants => ⟨d, name⟩ :: Inscription.row d (constants.map (·.1))
  | .synonym name t => ⟨d, name⟩ :: Inscription.row d t.strings

/-- A name with a space behind it. -/
theorem phrase_name (name : String) (d : Nat) {gs : List Glyph} {is : List Inscription}
    (h : Phrase gs is) : Phrase (row d (quoted name ++ " ").toList ++ gs) (⟨d, name⟩ :: is) := by
  rw [String.toList_append, Glyph.row_append, List.append_assoc]
  exact .literal (unquoted_cons (by decide) _) (h.plain_append (by decide) d)

theorem phrase_bodyGlyphs (body : Option (List Stmt)) (d : Nat) :
    Phrase (bodyGlyphs d body)
      (body.toList.flatMap fun ss => (Stmt.block ss).inscriptions (d + 1)) := by
  cases body with
  | none => exact spells_plain (by decide) d
  | some ss =>
      rw [Option.toList_some, List.flatMap_singleton]
      exact (phrase_line (d + 1) (phrase_stmt (.block ss) (d + 1))).plain_append (by decide) d

theorem phrase_fieldGlyphs (fs : Option (List Binder)) (d : Nat) :
    Phrase (fieldGlyphs d fs)
      (fs.toList.flatMap fun fs => Inscription.row (d + 1) (fs.flatMap Binder.strings)) := by
  cases fs with
  | none => exact spells_plain (by decide) d
  | some fs =>
      have hfields := phrase_line (d + 1) (phrase_fields fs (d + 1))
      rw [Option.toList_some, List.flatMap_singleton]
      exact phrase_headed "(Some" "Some" rfl (by decide) d hfields

/-- What stands behind the lead is a phrase. -/
theorem phrase_inside (o : Outline) (d : Nat) : Phrase (o.inside d) (o.inscriptions d) := by
  cases o with
  | function name ret params requires ensures body =>
      have hopen : "\x7b| f_return := ".toList
          = Delimiter.brace.opener ++ " f_return := ".toList := rfl
      have hclose : " |\x7d".toList = ' ' :: Delimiter.brace.closer := rfl
      -- from the last member to the first, up to the closing brace
      have hend : Phrase [⟨d + 1, ' '⟩] [] := .plain (by decide) .nil
      have hbody := ((phrase_bodyGlyphs body (d + 1)).append
        (unquoted_cons (by decide) _) hend).plain_append (w := "   f_body := ".toList)
          (by decide) (d + 1)
      have hspec := phrase_clause (w := "   f_spec := ".toList) (by decide) (d + 1) (d + 1)
        (phrase_contract requires ensures (d + 1)) hbody
      have hbinders : Spells (list (params.map binder)) (params.flatMap Binder.strings) :=
        spells_list_map fun b _ => spells_binder b
      have hparams := phrase_clause (w := "   f_params := ".toList) (by decide)
        (d + 1) (d + 1) (hbinders (d + 1)) hspec
      have hmembers := phrase_clause (w := " f_return := ".toList) (by decide)
        (d + 1) (d + 1) (spells_ty ret (d + 1)) hparams
      have hbraces := Phrase.group (d := d + 1) (e := d + 1) .brace hmembers .nil
      have hfunction := Phrase.literal (d := d) (s := name) (unquoted_cons (by decide) _)
        (phrase_line (d + 1) hbraces)
      rw [inside, hopen, hclose]
      simp only [Glyph.row_append, row_cons, List.append_assoc, List.cons_append,
        List.nil_append, List.append_nil] at hfunction ⊢
      exact hfunction
  | object name t init =>
      have hinit := (spells_option_expr init d).plain_append (w := " ".toList) (by decide) d
      exact phrase_name name d ((spells_ty t d).append (unquoted_cons (by decide) _) hinit)
  | record isUnion name fields => exact phrase_name name d (phrase_fieldGlyphs fields d)
  | enumeration name constants =>
      have hconstants : Spells (list (constants.map constant)) (constants.map (·.1)) := by
        have hlist : Spells (list (constants.map constant))
            (constants.flatMap fun c => [c.1]) :=
          spells_list_map fun c _ => spells_constant c
        rwa [← List.map_eq_flatMap] at hlist
      exact phrase_name name d (hconstants d)
  | synonym name t => exact phrase_name name d (spells_ty t d)

/-- **An outline is a phrase**, with its strings at the depths of its scopes. -/
theorem phrase_outline (o : Outline) (d : Nat) : Phrase (glyphs d o) (o.inscriptions d) := by
  have hlead : ∀ s : Shape, s.lead.toList.all isPlain = true := by
    rintro (_ | _ | (_ | _) | _ | _) <;> decide
  exact (phrase_inside o d).plain_append (hlead o.shape) d

end Outline

end Term

/-! ## §5. Depths. -/

theorem Inscription.le_depth_row {d e : Nat} (h : d ≤ e) (ss : List String) :
    ∀ i ∈ Inscription.row e ss, d ≤ i.depth := by
  intro i hi
  obtain ⟨s, _, rfl⟩ := List.mem_map.mp hi
  exact h

mutual

/-- The strings of a statement stand at its depth or deeper. -/
theorem Stmt.le_depth : ∀ (s : Stmt) (d : Nat), ∀ i ∈ s.inscriptions d, d ≤ i.depth
  | .ret _, d => Inscription.le_depth_row (Nat.le_refl d) _
  | .eval _, d => Inscription.le_depth_row (Nat.le_refl d) _
  | .declare _ _ _, d => Inscription.le_depth_row (Nat.le_refl d) _
  | .block body, d => fun i hi => Nat.le_of_succ_le (Stmt.le_depth_all body (d + 1) i hi)
  | .branch _ yes none, d =>
      List.forall_mem_append.mpr ⟨Inscription.le_depth_row (Nat.le_refl d) _,
        fun i hi => Nat.le_of_succ_le (yes.le_depth (d + 1) i hi)⟩
  | .branch _ yes (some no), d =>
      List.forall_mem_append.mpr ⟨Inscription.le_depth_row (Nat.le_refl d) _,
        List.forall_mem_append.mpr
          ⟨fun i hi => Nat.le_of_succ_le (yes.le_depth (d + 1) i hi),
            fun i hi => Nat.le_of_succ_le (no.le_depth (d + 1) i hi)⟩⟩
  | .loop _ body, d =>
      List.forall_mem_append.mpr ⟨Inscription.le_depth_row (Nat.le_refl d) _,
        fun i hi => Nat.le_of_succ_le (body.le_depth (d + 1) i hi)⟩

theorem Stmt.le_depth_all : ∀ (ss : List Stmt) (d : Nat),
    ∀ i ∈ Stmt.inscriptionsAll d ss, d ≤ i.depth
  | [], _ => fun i hi => by simp [Stmt.inscriptionsAll] at hi
  | s :: ss, d => List.forall_mem_append.mpr ⟨s.le_depth d, Stmt.le_depth_all ss d⟩

end

/-- The strings of an outline stand at its depth or deeper. -/
theorem Term.Outline.le_depth (o : Outline) (d : Nat) :
    ∀ i ∈ o.inscriptions d, d ≤ i.depth := by
  have hhere := Inscription.le_depth_row (Nat.le_refl d)
  have hdeeper := Inscription.le_depth_row (Nat.le_succ d)
  cases o with
  | function name ret params requires ensures body =>
      refine List.forall_mem_cons.mpr ⟨Nat.le_refl d, ?_⟩
      simp only [List.forall_mem_append]
      refine ⟨hdeeper _, hdeeper _, hdeeper _, Inscription.le_depth_row (by omega) _, ?_⟩
      intro i hi
      obtain ⟨ss, _, hi⟩ := List.mem_flatMap.mp hi
      have hdepth := Stmt.le_depth (.block ss) (d + 2) i hi
      omega
  | object name t init =>
      exact List.forall_mem_cons.mpr
        ⟨Nat.le_refl d, List.forall_mem_append.mpr ⟨hhere _, hhere _⟩⟩
  | record isUnion name fields =>
      refine List.forall_mem_cons.mpr ⟨Nat.le_refl d, fun i hi => ?_⟩
      obtain ⟨fs, _, hi⟩ := List.mem_flatMap.mp hi
      exact hdeeper _ i hi
  | enumeration name constants => exact List.forall_mem_cons.mpr ⟨Nat.le_refl d, hhere _⟩
  | synonym name t => exact List.forall_mem_cons.mpr ⟨Nat.le_refl d, hhere _⟩

end DeclExport
