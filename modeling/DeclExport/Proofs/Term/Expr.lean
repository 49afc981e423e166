/-
  DeclExport.Proofs.Term.Expr
  ────────────────────────────────
  **TYPES AND EXPRESSIONS ARE READ BACK.**

  The term of a type or an expression begins with a text that names its
  outermost constructor, its *lead*, and goes on with its *operands*:

      (Tpointer  Tvoid)          (Ebinop Badd  (Evar "a") (Eint 1))
      └─ lead ─┘                 └── lead ───┘

  No lead is a prefix of another, so the lead tells the constructor, and then
  the operands are read one after the other by induction.
-/
import DeclExport.Proofs.Term.Literal
import DeclExport.Term.Expr

namespace DeclExport

open Text Term

/-! ## §1. Types. -/

/-- The constructors of types. -/
inductive Ty.Shape where
  | void | bool | char | int | float | pointer | reference | const | named
  deriving DecidableEq

namespace Ty

/-- The constructor of a type. -/
def shape : Ty → Shape
  | .void => .void
  | .bool => .bool
  | .char => .char
  | .int _ _ => .int
  | .float _ => .float
  | .pointer _ => .pointer
  | .reference _ => .reference
  | .const _ => .const
  | .named _ => .named

/-- The text that names a constructor. -/
def Shape.lead : Shape → String
  | .void => "Tvoid"
  | .bool => "Tbool"
  | .char => "Tchar"
  | .int => "(Tint W"
  | .float => "(Tfloat W"
  | .pointer => "(Tpointer "
  | .reference => "(Treference "
  | .const => "(Qconst "
  | .named => "(Tnamed "

/-- The text behind the lead. -/
def operands : Ty → String
  | .void | .bool | .char => ""
  | .int bits signed =>
      nat bits.toNat ++ " " ++ ((if signed then "Signed" else "Unsigned") ++ ")")
  | .float bits => nat bits.toNat ++ ")"
  | .pointer t | .reference t | .const t => ty t ++ ")"
  | .named n => quoted n ++ ")"

theorem readable_lead (s : Shape) : Readable Shape.lead s :=
  readable_of_not_prefix (by rintro ⟨⟩ ⟨⟩ <;> decide) s

theorem toList_ty (t : Ty) : (ty t).toList = (t.shape.lead ++ t.operands).toList := by
  cases t <;> simp [ty, app, shape, Shape.lead, operands]

/-- Terms of types that begin alike have the same constructor. -/
theorem shape_and_operands {s t : Ty} {r r' : List Char}
    (h : (ty s).toList ++ r = (ty t).toList ++ r') :
    s.shape = t.shape ∧ s.operands.toList ++ r = t.operands.toList ++ r' := by
  rw [toList_ty, toList_ty] at h
  exact (readable_lead s.shape).next h

/-- **Types are read back.** -/
theorem readable_ty (t : Ty) : Readable ty t := by
  induction t with
  | void =>
      intro u r r' h
      obtain ⟨hshape, _⟩ := shape_and_operands h
      cases u with
      | void => rfl
      | _ => simp [shape] at hshape
  | bool =>
      intro u r r' h
      obtain ⟨hshape, _⟩ := shape_and_operands h
      cases u with
      | bool => rfl
      | _ => simp [shape] at hshape
  | char =>
      intro u r r' h
      obtain ⟨hshape, _⟩ := shape_and_operands h
      cases u with
      | char => rfl
      | _ => simp [shape] at hshape
  | int bits signed =>
      intro u r r' h
      obtain ⟨hshape, hrest⟩ := shape_and_operands h
      cases u with
      | int bits' signed' =>
          obtain ⟨hbits, hrest⟩ :=
            (readable_nat " " rfl (by decide) bits.toNat).next hrest
          -- what is left begins with one of two words
          have hsigned : signed = signed' := by
            cases signed <;> cases signed' <;> simp at hrest ⊢
          rw [UInt16.toNat_inj.mp hbits, hsigned]
      | _ => simp [shape] at hshape
  | float bits =>
      intro u r r' h
      obtain ⟨hshape, hrest⟩ := shape_and_operands h
      cases u with
      | float bits' =>
          have hbits := readable_nat ")" rfl (by decide) bits.toNat
            bits'.toNat r r' hrest
          rw [UInt16.toNat_inj.mp hbits]
      | _ => simp [shape] at hshape
  | pointer t ih =>
      intro u r r' h
      obtain ⟨hshape, hrest⟩ := shape_and_operands h
      cases u with
      | pointer u => rw [(ih.next hrest).1]
      | _ => simp [shape] at hshape
  | reference t ih =>
      intro u r r' h
      obtain ⟨hshape, hrest⟩ := shape_and_operands h
      cases u with
      | reference u => rw [(ih.next hrest).1]
      | _ => simp [shape] at hshape
  | const t ih =>
      intro u r r' h
      obtain ⟨hshape, hrest⟩ := shape_and_operands h
      cases u with
      | const u => rw [(ih.next hrest).1]
      | _ => simp [shape] at hshape
  | named n =>
      intro u r r' h
      obtain ⟨hshape, hrest⟩ := shape_and_operands h
      cases u with
      | named n' =>
          rw [readable_quoted ")" rfl (by decide) n n' r r' hrest]
      | _ => simp [shape] at hshape

end Ty

/-! ## §2. Pairs of a name and a term. -/

namespace Term

theorem toList_pair (name term : String) :
    (pair name term).toList = ("(" ++ (quoted name ++ ", " ++ (term ++ ")"))).toList := by
  simp [pair]

theorem pair_begins (name term : String) : ∃ cs, (pair name term).toList = '(' :: cs :=
  ⟨(quoted name ++ ", " ++ (term ++ ")")).toList, by simp [toList_pair]⟩

/-- A pair is read back if its term is, up to the parenthesis. -/
theorem pair_inj {α : Type} {code : α → String} {m n : String} {a b : α}
    {r r' : List Char} (ha : Readable (fun a => code a ++ ")") a)
    (h : (pair m (code a)).toList ++ r = (pair n (code b)).toList ++ r') :
    m = n ∧ a = b := by
  rw [toList_pair, toList_pair] at h
  obtain ⟨hname, hrest⟩ :=
    (readable_quoted ", " rfl (by decide) m).next (append_text_cancel h)
  exact ⟨hname, ha b r r' hrest⟩

/-- **Parameters and fields are read back.** -/
theorem readable_binder (b : Binder) : Readable binder b := by
  intro c r r' h
  obtain ⟨hname, hty⟩ := pair_inj ((Ty.readable_ty b.ty).marked ")") h
  cases b
  cases c
  simp_all

theorem readable_binders (bs : List Binder) :
    Readable (fun bs => list (bs.map binder)) bs :=
  readable_list binder (fun b => pair_begins b.name (ty b.ty)) fun b _ => readable_binder b

end Term

/-! ## §3. Expressions. -/

/-- The constructors of expressions, with the operators that they name. -/
inductive Expr.Shape where
  | int | bool | var | call
  | binary (op : BinaryOp)
  | unary (op : UnaryOp)
  | assign
  deriving DecidableEq

namespace Expr

/-- The constructor of an expression. -/
def shape : Expr → Shape
  | .int _ => .int
  | .bool _ => .bool
  | .var _ => .var
  | .call _ _ => .call
  | .binary op _ _ => .binary op
  | .unary op _ => .unary op
  | .assign _ _ => .assign

/-- The words that name a constructor. -/
def Shape.words : Shape → List String
  | .int => ["Eint"]
  | .bool => ["Ebool"]
  | .var => ["Evar"]
  | .call => ["Ecall"]
  | .binary op => binaryHead op
  | .unary op => unaryHead op
  | .assign => ["Eassign"]

/-- The text that names a constructor. -/
def Shape.lead (s : Shape) : String := "(" ++ " ".intercalate s.words ++ " "

/-- The text behind the lead. -/
def operands : Expr → String
  | .int i => Term.int i.toInt ++ ")"
  | .bool b => (if b then "true" else "false") ++ ")"
  | .var n => quoted n ++ ")"
  | .call callee args => quoted callee ++ " " ++ (list (args.map expr) ++ ")")
  | .binary _ l r => expr l ++ (" " ++ (expr r ++ ")"))
  | .unary _ e => expr e ++ ")"
  | .assign t v => expr t ++ (" " ++ (expr v ++ ")"))

theorem readable_lead (s : Shape) : Readable Shape.lead s := by
  refine readable_of_not_prefix ?_ s
  -- operators are part of the lead, so all pairs of them are compared as well
  rintro (_ | _ | _ | _ | op | op | _) (_ | _ | _ | _ | op' | op' | _) <;>
    (try cases op) <;> (try cases op') <;> decide

theorem exprs_eq_map (es : List Expr) : exprs es = es.map expr := by
  induction es with
  | nil => rfl
  | cons e es ih => rw [exprs, ih, List.map_cons]

theorem toList_expr (e : Expr) : (expr e).toList = (e.shape.lead ++ e.operands).toList := by
  cases e with
  | binary op l r =>
      cases op <;> simp [expr, app, binaryHead, shape, Shape.lead, Shape.words, operands]
  | unary op e =>
      cases op <;> simp [expr, app, unaryHead, shape, Shape.lead, Shape.words, operands]
  | _ => simp [expr, app, exprs_eq_map, shape, Shape.lead, Shape.words, operands]

theorem expr_begins (e : Expr) : ∃ cs, (expr e).toList = '(' :: cs :=
  ⟨(" ".intercalate e.shape.words ++ " " ++ e.operands).toList, by
    simp [toList_expr, Shape.lead]⟩

/-- Terms of expressions that begin alike have the same constructor. -/
theorem shape_and_operands {d e : Expr} {r r' : List Char}
    (h : (expr d).toList ++ r = (expr e).toList ++ r') :
    d.shape = e.shape ∧ d.operands.toList ++ r = e.operands.toList ++ r' := by
  rw [toList_expr, toList_expr] at h
  exact (readable_lead d.shape).next h

mutual

/-- **Expressions are read back.** -/
theorem readable_expr : ∀ e : Expr, Readable expr e
  | .int i => by
      intro e r r' h
      obtain ⟨hshape, hrest⟩ := shape_and_operands h
      cases e with
      | int j =>
          have hij := readable_int ")" rfl (by decide) i.toInt j.toInt r r' hrest
          rw [Int64.toInt_inj.mp hij]
      | _ => simp [shape] at hshape
  | .bool b => by
      intro e r r' h
      obtain ⟨hshape, hrest⟩ := shape_and_operands h
      cases e with
      | bool c => cases b <;> cases c <;> simp [operands] at hrest ⊢
      | _ => simp [shape] at hshape
  | .var n => by
      intro e r r' h
      obtain ⟨hshape, hrest⟩ := shape_and_operands h
      cases e with
      | var m => rw [readable_quoted ")" rfl (by decide) n m r r' hrest]
      | _ => simp [shape] at hshape
  | .call callee args => by
      intro e r r' h
      obtain ⟨hshape, hrest⟩ := shape_and_operands h
      cases e with
      | call callee' args' =>
          obtain ⟨hcallee, hrest⟩ :=
            (readable_quoted " " rfl (by decide) callee).next hrest
          have hargs := readable_list expr expr_begins (readable_exprs args)
          rw [hcallee, (hargs.next hrest).1]
      | _ => simp [shape] at hshape
  | .binary op d₁ d₂ => by
      intro e r r' h
      obtain ⟨hshape, hrest⟩ := shape_and_operands h
      cases e with
      | binary op' e₁ e₂ =>
          obtain ⟨hleft, hrest⟩ := (readable_expr d₁).next hrest
          obtain ⟨hright, _⟩ := (readable_expr d₂).next (append_text_cancel hrest)
          rw [Shape.binary.inj hshape, hleft, hright]
      | _ => simp [shape] at hshape
  | .unary op d => by
      intro e r r' h
      obtain ⟨hshape, hrest⟩ := shape_and_operands h
      cases e with
      | unary op' e => rw [Shape.unary.inj hshape, ((readable_expr d).next hrest).1]
      | _ => simp [shape] at hshape
  | .assign d₁ d₂ => by
      intro e r r' h
      obtain ⟨hshape, hrest⟩ := shape_and_operands h
      cases e with
      | assign e₁ e₂ =>
          obtain ⟨htarget, hrest⟩ := (readable_expr d₁).next hrest
          obtain ⟨hvalue, _⟩ := (readable_expr d₂).next (append_text_cancel hrest)
          rw [htarget, hvalue]
      | _ => simp [shape] at hshape

theorem readable_exprs : ∀ es : List Expr, ∀ e ∈ es, Readable expr e
  | [] => by simp
  | e :: es => List.forall_mem_cons.mpr ⟨readable_expr e, readable_exprs es⟩

end

end Expr

end DeclExport
