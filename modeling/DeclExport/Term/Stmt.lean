/-
  DeclExport.Term.Stmt
  ────────────────────────────────
  **LAYOUTS OF STATEMENTS.**

  A statement that contains statements breaks the line before each of them and
  lays them out one scope deeper.
-/
import DeclExport.Layout.Formatter
import DeclExport.Term.Expr

namespace DeclExport.Term

/-- A term that may be missing. -/
def option (term : Option String) : String :=
  match term with
  | none => "None"
  | some t => "(Some " ++ t ++ ")"

mutual

/-- The layout of a statement. -/
def stmt : Stmt → List Step
  | .ret value => [.text ("(Sreturn " ++ option (value.map expr) ++ ")")]
  | .eval e => [.text ("(Sexpr " ++ expr e ++ ")")]
  | .block [] => [.text "(Sseq [])"]
  | .block (s :: ss) =>
      [.text "(Sseq [", .nested (.line :: stmt s ++ stmtTail ss), .text "])"]
  | .branch cond yes none =>
      [.text ("(Sif " ++ expr cond),
        .nested (.line :: stmt yes ++ [.line, .text "Sskip"]), .text ")"]
  | .branch cond yes (some no) =>
      [.text ("(Sif " ++ expr cond),
        .nested (.line :: stmt yes ++ .line :: stmt no), .text ")"]
  | .loop cond body =>
      [.text ("(Swhile " ++ expr cond), .nested (.line :: stmt body), .text ")"]
  | .declare name t init =>
      [.text ("(Sdecl " ++ " ".intercalate [quoted name, ty t, option (init.map expr)] ++ ")")]

/-- The layout of the statements of a block after the first. -/
def stmtTail : List Stmt → List Step
  | [] => []
  | s :: ss => .text ";" :: .line :: stmt s ++ stmtTail ss

end

/-- The term of a statement on its own. -/
def renderStmt (s : Stmt) : Except Failure String := Step.toText (stmt s)

end DeclExport.Term
