/-
  DeclExport.Proofs.Term.Stmt
  ────────────────────────────────
  **STATEMENTS ARE READ BACK.**

  The glyphs of a statement are its lead, what stands inside, and a closing
  parenthesis:

      (Sif  (Evar "x")⏎ (Sreturn None)⏎ Sskip  )
      └lead┘└──────────── inside ─────────────┘

  The lead tells the constructor.  Inside, expressions stand at the depth of the
  statement and statements one scope deeper, so that a reader knows the depth of
  everything before reading it, and induction reads it all.
-/
import DeclExport.Proofs.Layout.Reading
import DeclExport.Proofs.Term.Expr
import DeclExport.Term.Stmt

namespace DeclExport

open Text Term Glyph Step

/-! ## §1. Terms that may be missing. -/

/-- A term that may be missing, if it is readable up to its parenthesis. -/
theorem Term.readable_option {α : Type} {code : α → String}
    (hread : ∀ a, Readable (fun a => code a ++ ")") a) (o : Option α) :
    Readable (fun o => option (o.map code)) o := by
  intro o' r r' h
  have hsome : ∀ a, option (some (code a)) = "(Some " ++ (code a ++ ")") := fun a => by
    rw [option, String.append_assoc]
  cases o with
  | none =>
      cases o' with
      | none => rfl
      | some b => simp [option] at h
  | some a =>
      cases o' with
      | none => simp [option] at h
      | some b =>
          simp only [Option.map_some, hsome] at h
          rw [hread a b r r' (append_text_cancel h)]

theorem Term.readable_option_expr (o : Option Expr) :
    Readable (fun o => option (o.map expr)) o :=
  readable_option (fun e => (Expr.readable_expr e).marked ")") o

namespace Stmt

/-! ## §2. Layouts of statements are closed. -/

mutual

theorem closed_stmt : ∀ s : Stmt, Closed (stmt s)
  | .ret _ => closed_text _
  | .eval _ => closed_text _
  | .block [] => closed_text _
  | .block (s :: ss) =>
      ((closed_text _).nested_cons
        ((closed_stmt s).append (closed_stmtTail ss)).line_cons).text_cons _
  | .branch _ yes none =>
      ((closed_text _).nested_cons
        ((closed_stmt yes).append (closed_text _).line_cons).line_cons).text_cons _
  | .branch _ yes (some no) =>
      ((closed_text _).nested_cons
        ((closed_stmt yes).append (closed_stmt no).line_cons).line_cons).text_cons _
  | .loop _ body => ((closed_text _).nested_cons (closed_stmt body).line_cons).text_cons _
  | .declare _ _ _ => closed_text _

theorem closed_stmtTail : ∀ ss : List Stmt, Closed (stmtTail ss)
  | [] => closed_nil
  | s :: ss => ((closed_stmt s).append (closed_stmtTail ss)).line_cons.text_cons _

end

/-! ## §3. The glyphs of a statement. -/

/-- The constructors of statements. -/
inductive Shape where
  | ret | eval | block | branch | loop | declare
  deriving DecidableEq

/-- The constructor of a statement. -/
def shape : Stmt → Shape
  | .ret _ => .ret
  | .eval _ => .eval
  | .block _ => .block
  | .branch _ _ _ => .branch
  | .loop _ _ => .loop
  | .declare _ _ _ => .declare

/-- The text that names a constructor. -/
def Shape.lead : Shape → String
  | .ret => "(Sreturn "
  | .eval => "(Sexpr "
  | .block => "(Sseq ["
  | .branch => "(Sif "
  | .loop => "(Swhile "
  | .declare => "(Sdecl "

/-- The glyphs of a branch that may be missing. -/
def otherwise (d : Nat) : Option Stmt → List Glyph
  | none => row d "Sskip".toList
  | some no => glyphs d (stmt no)

/-- The glyphs between the lead of a statement and its closing parenthesis. -/
def inside (d : Nat) : Stmt → List Glyph
  | .ret value => row d (option (value.map expr)).toList
  | .eval e => row d (expr e).toList
  | .block [] => row d [']']
  | .block (s :: ss) =>
      ⟨d + 1, '\n'⟩ :: (glyphs (d + 1) (stmt s)
        ++ (glyphs (d + 1) (stmtTail ss) ++ row d [']']))
  | .branch cond yes no =>
      row d (expr cond).toList
        ++ ⟨d + 1, '\n'⟩ :: (glyphs (d + 1) (stmt yes)
          ++ ⟨d + 1, '\n'⟩ :: otherwise (d + 1) no)
  | .loop cond body =>
      row d (expr cond).toList ++ ⟨d + 1, '\n'⟩ :: glyphs (d + 1) (stmt body)
  | .declare name t init =>
      row d (quoted name ++ " ").toList ++ (row d (ty t).toList
        ++ (row d " ".toList ++ row d (option (init.map expr)).toList))

theorem readable_lead (s : Shape) : Readable Shape.lead s :=
  readable_of_not_prefix (by rintro ⟨⟩ ⟨⟩ <;> decide) s

theorem glyphs_stmtTail_cons (d : Nat) (s : Stmt) (ss : List Stmt) :
    glyphs d (stmtTail (s :: ss))
      = ⟨d, ';'⟩ :: ⟨d, '\n'⟩ :: (glyphs d (stmt s) ++ glyphs d (stmtTail ss)) := by
  rw [stmtTail, List.cons_append, List.cons_append, glyphs_text_cons, glyphs_line_cons,
    glyphs_append (closed_stmt s)]
  rfl

theorem glyphs_stmt (d : Nat) (s : Stmt) :
    glyphs d (stmt s) = row d s.shape.lead.toList ++ (s.inside d ++ [⟨d, ')'⟩]) := by
  cases s with
  | ret value => simp [stmt, shape, Shape.lead, inside]
  | eval e => simp [stmt, shape, Shape.lead, inside]
  | block body =>
      cases body with
      | nil => simp [stmt, shape, Shape.lead, inside]
      | cons s ss =>
          have hbody : Closed (.line :: stmt s ++ stmtTail ss) :=
            ((closed_stmt s).append (closed_stmtTail ss)).line_cons
          rw [stmt, glyphs_text_cons, glyphs_nested_cons hbody]
          simp [shape, Shape.lead, inside, glyphs_append (closed_stmt s)]
  | branch cond yes no =>
      cases no with
      | none =>
          have hbody : Closed (.line :: stmt yes ++ [.line, .text "Sskip"]) :=
            ((closed_stmt yes).append (closed_text _).line_cons).line_cons
          rw [stmt, glyphs_text_cons, glyphs_nested_cons hbody]
          simp [shape, Shape.lead, inside, otherwise, glyphs_append (closed_stmt yes)]
      | some no =>
          have hbody : Closed (.line :: stmt yes ++ .line :: stmt no) :=
            ((closed_stmt yes).append (closed_stmt no).line_cons).line_cons
          rw [stmt, glyphs_text_cons, glyphs_nested_cons hbody]
          simp [shape, Shape.lead, inside, otherwise, glyphs_append (closed_stmt yes)]
  | loop cond body =>
      rw [stmt, glyphs_text_cons, glyphs_nested_cons (closed_stmt body).line_cons]
      simp [shape, Shape.lead, inside]
  | declare name t init => simp [stmt, shape, Shape.lead, inside]

theorem glyphs_stmt_begins (d : Nat) (s : Stmt) :
    ∃ gs, glyphs d (stmt s) = ⟨d, '('⟩ :: gs := by
  rw [glyphs_stmt]
  cases s <;> simp [shape, Shape.lead]

/-- A statement ends in a parenthesis, not in a line feed. -/
theorem pendingAfter_stmt (p : Bool) (d : Nat) (s : Stmt) :
    pendingAfter p (glyphs d (stmt s)) = false := by
  rw [glyphs_stmt, pendingAfter_append, pendingAfter_append]
  rfl

/-! ## §4. Reading a statement. -/

/-- Statements that are written alike have the same constructor. -/
theorem shape_and_inside {s t : Stmt} {d : Nat} {p : Bool} {X Y : List Glyph}
    (h : written p (glyphs d (stmt s) ++ X) = written p (glyphs d (stmt t) ++ Y)) :
    s.shape = t.shape ∧ ∃ q,
      written q (s.inside d ++ (⟨d, ')'⟩ :: X)) = written q (t.inside d ++ (⟨d, ')'⟩ :: Y)) := by
  simp only [glyphs_stmt, List.append_assoc, List.singleton_append] at h
  obtain ⟨hshape, hrest⟩ := (legible_row (readable_lead s.shape) d).rest h
  exact ⟨hshape, _, hrest⟩

mutual

/-- **Statements are read back**, at every depth and whatever follows. -/
theorem legible_stmt : ∀ (s : Stmt) (d : Nat), Legible (fun s => glyphs d (stmt s)) s
  | .ret value, d => by
      intro t p X Y h
      obtain ⟨hshape, q, hin⟩ := shape_and_inside h
      cases t with
      | ret value' => rw [legible_row (readable_option_expr value) d value' q _ _ hin]
      | _ => simp [shape] at hshape
  | .eval e, d => by
      intro t p X Y h
      obtain ⟨hshape, q, hin⟩ := shape_and_inside h
      cases t with
      | eval e' => rw [legible_row (Expr.readable_expr e) d e' q _ _ hin]
      | _ => simp [shape] at hshape
  | .block [], d => by
      intro t p X Y h
      obtain ⟨hshape, q, hin⟩ := shape_and_inside h
      cases t with
      | block body =>
          cases body with
          | nil => rfl
          -- the bracket of the empty block is where the other breaks the line
          | cons t ts => exact absurd hin (written_ne_newline (by decide) q d (d + 1) _ _)
      | _ => simp [shape] at hshape
  | .block (s :: ss), d => by
      intro t p X Y h
      obtain ⟨hshape, q, hin⟩ := shape_and_inside h
      cases t with
      | block body =>
          cases body with
          | nil => exact absurd hin.symm (written_ne_newline (by decide) q d (d + 1) _ _)
          | cons t ts =>
              simp only [inside, List.cons_append, List.append_assoc] at hin
              obtain ⟨_, hin⟩ := written_cons_inj hin
              obtain ⟨hst, hin⟩ := (legible_stmt s (d + 1)).rest hin
              -- the bracket of the block is written at another depth than what
              -- else may follow, so it matters that no padding is pending
              rw [pendingAfter_stmt] at hin
              rw [hst, stmtTail_inj ss d hin]
      | _ => simp [shape] at hshape
  | .branch cond yes no, d => by
      intro t p X Y h
      obtain ⟨hshape, q, hin⟩ := shape_and_inside h
      cases t with
      | branch cond' yes' no' =>
          simp only [inside, List.append_assoc, List.cons_append] at hin
          -- the condition at this depth, the branches one scope deeper
          obtain ⟨hcond, hin⟩ := (legible_row (Expr.readable_expr cond) d).rest hin
          obtain ⟨_, hin⟩ := written_cons_inj hin
          obtain ⟨hyes, hin⟩ := (legible_stmt yes (d + 1)).rest hin
          obtain ⟨_, hin⟩ := written_cons_inj hin
          rw [hcond, hyes, legible_otherwise no (d + 1) no' _ _ _ hin]
      | _ => simp [shape] at hshape
  | .loop cond body, d => by
      intro t p X Y h
      obtain ⟨hshape, q, hin⟩ := shape_and_inside h
      cases t with
      | loop cond' body' =>
          simp only [inside, List.append_assoc, List.cons_append] at hin
          obtain ⟨hcond, hin⟩ := (legible_row (Expr.readable_expr cond) d).rest hin
          obtain ⟨_, hin⟩ := written_cons_inj hin
          rw [hcond, legible_stmt body (d + 1) body' _ _ _ hin]
      | _ => simp [shape] at hshape
  | .declare name t init, d => by
      intro u p X Y h
      obtain ⟨hshape, q, hin⟩ := shape_and_inside h
      cases u with
      | declare name' t' init' =>
          simp only [inside, List.append_assoc] at hin
          obtain ⟨hname, hin⟩ :=
            (legible_row (readable_quoted " " rfl (by decide) name) d).rest hin
          obtain ⟨hty, hin⟩ := (legible_row (Ty.readable_ty t) d).rest hin
          have hinit := legible_row (readable_option_expr init) d init' _ _ _
            (written_append_cancel hin)
          rw [hname, hty, hinit]
      | _ => simp [shape] at hshape

theorem legible_otherwise : ∀ (no : Option Stmt) (d : Nat), Legible (otherwise d) no
  | none, d => by
      intro no' p X Y h
      cases no' with
      | none => rfl
      | some no' =>
          obtain ⟨gs, hgs⟩ := glyphs_stmt_begins d no'
          rw [otherwise, otherwise, hgs] at h
          exact absurd (written_cons_inj h).1 (by decide)
  | some no, d => by
      intro no' p X Y h
      cases no' with
      | none =>
          obtain ⟨gs, hgs⟩ := glyphs_stmt_begins d no
          rw [otherwise, otherwise, hgs] at h
          exact absurd (written_cons_inj h).1 (by decide)
      | some no' => rw [legible_stmt no d no' p X Y h]

theorem stmtTail_inj : ∀ (ss : List Stmt) (d : Nat) {ts : List Stmt} {X Y : List Glyph},
    written false (glyphs (d + 1) (stmtTail ss) ++ (row d [']'] ++ X))
      = written false (glyphs (d + 1) (stmtTail ts) ++ (row d [']'] ++ Y)) → ss = ts
  | [], d, [], _, _, _ => rfl
  -- one block is closed where the other goes on; with nothing pending, the depth
  -- of neither shows
  | [], d, t :: ts, X, Y, h => by
      rw [glyphs_stmtTail_cons] at h
      simp [stmtTail, written_false_cons] at h
  | s :: ss, d, [], X, Y, h => by
      rw [glyphs_stmtTail_cons] at h
      simp [stmtTail, written_false_cons] at h
  | s :: ss, d, t :: ts, X, Y, h => by
      simp only [glyphs_stmtTail_cons, List.cons_append, List.append_assoc] at h
      obtain ⟨_, h⟩ := written_cons_inj h
      obtain ⟨_, h⟩ := written_cons_inj h
      obtain ⟨hst, h⟩ := (legible_stmt s (d + 1)).rest h
      rw [pendingAfter_stmt] at h
      rw [hst, stmtTail_inj ss d h]

end

/-! ## §5. THE READING THEOREM. -/

/-- The text of a statement. -/
theorem renderStmt_eq (s : Stmt) :
    renderStmt s = .ok (String.ofList (written false (glyphs 0 (stmt s)))) :=
  toText_of_closed (closed_stmt s)

/-- **Statement terms are uniquely readable**: every statement has a text, and it is
the text of no other statement. -/
theorem renderStmt_eq_ok_iff (s : Stmt) :
    ∃ text, renderStmt s = .ok text ∧ ∀ t, renderStmt t = .ok text ↔ t = s := by
  refine ⟨_, renderStmt_eq s, fun t => ⟨fun h => ?_, fun h => h ▸ renderStmt_eq t⟩⟩
  rw [renderStmt_eq, Except.ok.injEq, String.ofList_inj] at h
  exact legible_stmt t 0 s false [] [] (by simpa using h)

end Stmt

end DeclExport
