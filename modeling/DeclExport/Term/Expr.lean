/-
  DeclExport.Term.Expr
  ────────────────────────────────
  **TERMS OF LITERALS, TYPES AND EXPRESSIONS.**

  A string literal stands between double quotes, and a quote inside it is
  written twice.  A negative integer stands between parentheses.  A list stands
  between brackets, its items separated by a semicolon and a space.

  Every constructor has its own head word, and everything but a bare word
  stands between parentheses.
-/
import DeclExport.Source.Decl

namespace DeclExport.Term

/-! ## §1. Literals, lists and applications. -/

/-- The characters of a string literal between its quotes. -/
def doubled (cs : List Char) : List Char :=
  cs.flatMap fun c => if c = '"' then ['"', '"'] else [c]

/-- A string literal. -/
def quoted (s : String) : String := String.ofList ('"' :: doubled s.toList ++ ['"'])

/-- An unsigned number. -/
def nat (n : Nat) : String := String.ofList (Nat.toDigits 10 n)

/-- An integer literal. -/
def int (i : Int) : String :=
  match i with
  | .ofNat n => nat n
  | .negSucc n => "(-" ++ nat (n + 1) ++ ")"

/-- A list of terms. -/
def list (items : List String) : String := "[" ++ "; ".intercalate items ++ "]"

/-- An application: its words between parentheses, a space between two. -/
def app (words : List String) : String := "(" ++ " ".intercalate words ++ ")"

/-! ## §2. Types. -/

/-- The term of a type. -/
def ty : Ty → String
  | .void => "Tvoid"
  | .bool => "Tbool"
  | .char => "Tchar"
  | .int bits signed =>
      app ["Tint", "W" ++ nat bits.toNat, if signed then "Signed" else "Unsigned"]
  | .float bits => app ["Tfloat", "W" ++ nat bits.toNat]
  | .pointer t => app ["Tpointer", ty t]
  | .reference t => app ["Treference", ty t]
  | .const t => app ["Qconst", ty t]
  | .named n => app ["Tnamed", quoted n]

/-- A pair of a name and a term. -/
def pair (name term : String) : String := "(" ++ quoted name ++ ", " ++ term ++ ")"

/-- A parameter or a field. -/
def binder (b : Binder) : String := pair b.name (ty b.ty)

/-! ## §3. Expressions. -/

/-- The words in front of the operands: the two sequential operations have heads
of their own, the others name their operator. -/
def binaryHead : BinaryOp → List String
  | .add => ["Ebinop", "Badd"]
  | .sub => ["Ebinop", "Bsub"]
  | .mul => ["Ebinop", "Bmul"]
  | .div => ["Ebinop", "Bdiv"]
  | .rem => ["Ebinop", "Bmod"]
  | .lt => ["Ebinop", "Blt"]
  | .le => ["Ebinop", "Ble"]
  | .gt => ["Ebinop", "Bgt"]
  | .ge => ["Ebinop", "Bge"]
  | .eq => ["Ebinop", "Beq"]
  | .ne => ["Ebinop", "Bneq"]
  | .and => ["Eseqand"]
  | .or => ["Eseqor"]

/-- The words in front of the operand. -/
def unaryHead : UnaryOp → List String
  | .neg => ["Eunop", "Uminus"]
  | .not => ["Eunop", "Unot"]
  | .deref => ["Ederef"]
  | .addrOf => ["Eaddrof"]

mutual

/-- The term of an expression. -/
def expr : Expr → String
  | .int i => app ["Eint", int i.toInt]
  | .bool b => app ["Ebool", if b then "true" else "false"]
  | .var n => app ["Evar", quoted n]
  | .call callee args => app ["Ecall", quoted callee, list (exprs args)]
  | .binary op l r => app (binaryHead op ++ [expr l, expr r])
  | .unary op e => app (unaryHead op ++ [expr e])
  | .assign t v => app ["Eassign", expr t, expr v]

/-- The terms of the arguments of a call. -/
def exprs : List Expr → List String
  | [] => []
  | e :: es => expr e :: exprs es

end

end DeclExport.Term
