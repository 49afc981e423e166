/-
  DeclExport.Proofs.Source.Interchange
  ────────────────────────────────
  **THE FORMAT ROUND TRIP.**

  Two facts make up the round trip of a type of the model, and both follow its
  constructors:

      fits      the written value is one of the format
      undoes    the reader gives the model value for the written value

  Everything else is the same for all types (`Codec.Faithful.read_write`).
-/
import DeclExport.Proofs.Json.Fitting
import DeclExport.Source.Format.Codec

namespace DeclExport.Format

open DeclExport.Json

/-! ## §1. Words, texts, lists, what may be missing. -/

section

variable {slot : Slot Part} {α : Type} {toValue : α → Value} {ofValue? : Value → Option α}

theorem fits_word32 (n : UInt32) (h : slot.shape = u32) : (word32 n).Fits format slot := by
  have hn : n.toNat < UInt32.size := n.toNat_lt_size
  refine .int h ?_ ?_ <;> simp [UInt32.size, UInt64.size] at * <;> omega

theorem fits_word16 (n : UInt16) (h : slot.shape = u16) :
    (Value.int n.toNat).Fits format slot := by
  have hn : n.toNat < UInt16.size := n.toNat_lt_size
  refine .int h ?_ ?_ <;> simp [UInt16.size, UInt64.size] at * <;> omega

theorem fits_int64 (i : Int64) (h : slot.shape = i64) : (Value.int i.toInt).Fits format slot := by
  have hmin := i.le_toInt
  have hmax := i.toInt_lt
  refine .int h ⟨i.minValue_le_toInt, i.toInt_le⟩ ?_
  simp [UInt64.size]
  omega

theorem word32?_word32 (n : UInt32) : word32? (word32 n) = some n := by
  simp [word32?, nat?, word32, n.toNat_lt_size]

theorem word16?_word16 (n : UInt16) : word16? (.int n.toNat) = some n := by
  simp [word16?, nat?, n.toNat_lt_size]

theorem int64?_int64 (i : Int64) : int64? (.int i.toInt) = some i := by
  rw [int64?, if_pos ⟨i.minValue_le_toInt, i.toInt_le⟩, Int64.ofInt_toInt]

theorem fits_list {item : Shape Part} (hshape : slot.shape = .list item) {as : List α}
    (h : ∀ a ∈ as, (toValue a).Fits format { shape := item }) :
    (Value.list (as.map toValue)).Fits format slot :=
  .list hshape (List.forall_mem_map.mpr h)

theorem list?_list (h : ∀ a, ofValue? (toValue a) = some a) (as : List α) :
    list? ofValue? (.list (as.map toValue)) = some as := by
  rw [list?]
  induction as with
  | nil => rfl
  | cons a as ih => simp [h, ih]

theorem fits_optional (hslot : slot.nullable = true) (h : ∀ a, (toValue a).Fits format slot) :
    ∀ o, (optional toValue o).Fits format slot
  | none => .null hslot
  | some a => h a

/-- What is there is told from what is missing, since no reader takes `null`. -/
theorem optional?_optional (hnull : ofValue? .null = none)
    (h : ∀ a, ofValue? (toValue a) = some a) : ∀ o, optional? ofValue? (optional toValue o) = some o
  | none => rfl
  | some a => by
      have hne : toValue a ≠ .null := fun hv => by simpa [hv, hnull] using h a
      rw [optional, optional?, h a]
      · rfl
      · exact hne

end

variable {slot : Slot Part}

/-! ## §2. Types and operators. -/

theorem fits_ty : ∀ (t : Ty) {slot : Slot Part}, slot.shape = .named .type →
    (tyValue t).Fits format slot
  | .void, _, h => .unit h rfl rfl
  | .bool, _, h => .unit h rfl rfl
  | .char, _, h => .unit h rfl rfl
  | .int bits _, _, h =>
      .of_fields h rfl rfl (.cons (fits_word16 bits rfl) (.cons (.bool rfl) .nil))
  | .float bits, _, h => .of_fields h rfl rfl (.cons (fits_word16 bits rfl) .nil)
  | .pointer t, _, h => .single h rfl rfl (fits_ty t rfl)
  | .reference t, _, h => .single h rfl rfl (fits_ty t rfl)
  | .const t, _, h => .single h rfl rfl (fits_ty t rfl)
  | .named _, _, h => .single h rfl rfl (.text rfl)

theorem ty?_tyValue : ∀ t : Ty, ty? (tyValue t) = some t
  | .void => rfl
  | .bool => rfl
  | .char => rfl
  | .int bits signed => by simp [tyValue, ty?, word16?_word16, bool?]
  | .float bits => by simp [tyValue, ty?, word16?_word16]
  | .pointer t => by simp [tyValue, ty?, ty?_tyValue t]
  | .reference t => by simp [tyValue, ty?, ty?_tyValue t]
  | .const t => by simp [tyValue, ty?, ty?_tyValue t]
  | .named n => rfl

theorem fits_binaryOp (op : BinaryOp) (h : slot.shape = .named .binaryOp) :
    (Value.case (binaryTag op) []).Fits format slot := by
  cases op <;> exact .unit h rfl rfl

theorem binaryOp?_tag (op : BinaryOp) : binaryOp? (.case (binaryTag op) []) = some op := by
  cases op <;> rfl

theorem fits_unaryOp (op : UnaryOp) (h : slot.shape = .named .unaryOp) :
    (Value.case (unaryTag op) []).Fits format slot := by
  cases op <;> exact .unit h rfl rfl

theorem unaryOp?_tag (op : UnaryOp) : unaryOp? (.case (unaryTag op) []) = some op := by
  cases op <;> rfl

/-! ## §3. Expressions. -/

mutual

theorem fits_expr : ∀ (e : Expr) {slot : Slot Part}, slot.shape = .named .expr →
    (exprValue e).Fits format slot
  | .int i, _, h => .single h rfl rfl (fits_int64 i rfl)
  | .bool _, _, h => .single h rfl rfl (.bool rfl)
  | .var _, _, h => .single h rfl rfl (.text rfl)
  | .call _ args, _, h =>
      .of_fields h rfl rfl (.cons (.text rfl) (.cons (.list rfl (fits_exprs args)) .nil))
  | .binary op l r, _, h =>
      .of_fields h rfl rfl
        (.cons (fits_binaryOp op rfl) (.cons (fits_expr l rfl) (.cons (fits_expr r rfl) .nil)))
  | .unary op e, _, h =>
      .of_fields h rfl rfl (.cons (fits_unaryOp op rfl) (.cons (fits_expr e rfl) .nil))
  | .assign t v, _, h =>
      .of_fields h rfl rfl (.cons (fits_expr t rfl) (.cons (fits_expr v rfl) .nil))

theorem fits_exprs : ∀ es : List Expr,
    ∀ v ∈ exprValues es, v.Fits format { shape := .named .expr }
  | [] => by simp [exprValues]
  | e :: es => List.forall_mem_cons.mpr ⟨fits_expr e rfl, fits_exprs es⟩

end

mutual

theorem expr?_exprValue : ∀ e : Expr, expr? (exprValue e) = some e
  | .int i => by simp [exprValue, expr?, int64?_int64]
  | .bool _ => rfl
  | .var _ => rfl
  | .call callee args => by simp [exprValue, expr?, text?, exprs?_exprValues args]
  | .binary op l r => by
      simp [exprValue, expr?, binaryOp?_tag, expr?_exprValue l, expr?_exprValue r]
  | .unary op e => by simp [exprValue, expr?, unaryOp?_tag, expr?_exprValue e]
  | .assign t v => by simp [exprValue, expr?, expr?_exprValue t, expr?_exprValue v]

theorem exprs?_exprValues : ∀ es : List Expr, exprs? (exprValues es) = some es
  | [] => rfl
  | e :: es => by simp [exprValues, exprs?, expr?_exprValue e, exprs?_exprValues es]

end

theorem fits_optionalExpr (e : Option Expr) (hshape : slot.shape = .named .expr)
    (hnullable : slot.nullable = true) : (optional exprValue e).Fits format slot :=
  fits_optional hnullable (fun e => fits_expr e hshape) e

theorem optional?_expr (e : Option Expr) : optional? expr? (optional exprValue e) = some e :=
  optional?_optional rfl expr?_exprValue e

/-! ## §4. Statements. -/

mutual

theorem fits_stmt : ∀ (s : Stmt) {slot : Slot Part}, slot.shape = .named .stmt →
    (stmtValue s).Fits format slot
  | .ret e, _, h => .single h rfl rfl (fits_optionalExpr e rfl rfl)
  | .eval e, _, h => .single h rfl rfl (fits_expr e rfl)
  | .block ss, _, h => .single h rfl rfl (.list rfl (fits_stmts ss))
  | .branch c yes none, _, h =>
      .of_fields h rfl rfl
        (.cons (fits_expr c rfl) (.cons (fits_stmt yes rfl) (.cons (.null rfl) .nil)))
  | .branch c yes (some no), _, h =>
      .of_fields h rfl rfl
        (.cons (fits_expr c rfl) (.cons (fits_stmt yes rfl) (.cons (fits_stmt no rfl) .nil)))
  | .loop c body, _, h =>
      .of_fields h rfl rfl (.cons (fits_expr c rfl) (.cons (fits_stmt body rfl) .nil))
  | .declare _ t init, _, h =>
      .of_fields h rfl rfl
        (.cons (.text rfl) (.cons (fits_ty t rfl) (.cons (fits_optionalExpr init rfl rfl) .nil)))

theorem fits_stmts : ∀ ss : List Stmt,
    ∀ v ∈ stmtValues ss, v.Fits format { shape := .named .stmt }
  | [] => by simp [stmtValues]
  | s :: ss => List.forall_mem_cons.mpr ⟨fits_stmt s rfl, fits_stmts ss⟩

end

theorem stmtValue_ne_null (s : Stmt) : stmtValue s ≠ .null := by
  match s with
  | .ret _ | .eval _ | .block _ | .branch _ _ none | .branch _ _ (some _) | .loop _ _
  | .declare _ _ _ => simp [stmtValue]

mutual

theorem stmt?_stmtValue : ∀ s : Stmt, stmt? (stmtValue s) = some s
  | .ret e => by simp [stmtValue, stmt?, optional?_expr]
  | .eval e => by simp [stmtValue, stmt?, expr?_exprValue]
  | .block ss => by simp [stmtValue, stmt?, stmts?_stmtValues ss]
  | .branch c yes none => by simp [stmtValue, stmt?, expr?_exprValue, stmt?_stmtValue yes]
  | .branch c yes (some no) => by
      -- an `otherwise` that is there is not taken for `null`
      simp [stmtValue, stmt?, stmtValue_ne_null no, expr?_exprValue, stmt?_stmtValue yes,
        stmt?_stmtValue no]
  | .loop c body => by simp [stmtValue, stmt?, expr?_exprValue, stmt?_stmtValue body]
  | .declare n t init => by simp [stmtValue, stmt?, text?, ty?_tyValue, optional?_expr]

theorem stmts?_stmtValues : ∀ ss : List Stmt, stmts? (stmtValues ss) = some ss
  | [] => rfl
  | s :: ss => by simp [stmtValues, stmts?, stmt?_stmtValue s, stmts?_stmtValues ss]

end

/-! ## §5. Declarations. -/

theorem fits_binder (b : Binder) {n : Part} (hshape : slot.shape = .named n)
    (hdef : format n = binder) : (binderValue b).Fits format slot :=
  .of_record hshape hdef (.cons (.text rfl) (.cons (fits_ty b.ty rfl) .nil))

theorem binder?_binderValue (b : Binder) : binder? (binderValue b) = some b := by
  simp [binderValue, binder?, text?, ty?_tyValue]

theorem fits_recordTag (tag : RecordTag) (h : slot.shape = .named .recordTag) :
    (recordTagValue tag).Fits format slot := by
  cases tag <;> exact .unit h rfl rfl

theorem recordTag?_recordTagValue (tag : RecordTag) :
    recordTag? (recordTagValue tag) = some tag := by
  cases tag <;> rfl

theorem fits_constant (c : String × Int64) (h : slot.shape = .pair .text i64) :
    (constantValue c).Fits format slot :=
  .pair h (.text rfl) (fits_int64 c.2 rfl)

theorem constant?_constantValue (c : String × Int64) :
    constant? (constantValue c) = some c := by
  simp [constantValue, constant?, text?, int64?_int64]

theorem fits_body (ss : List Stmt) (h : slot.shape = .list (.named .stmt)) :
    (Value.list (stmtValues ss)).Fits format slot := .list h (fits_stmts ss)

theorem fits_binders (bs : List Binder) {n : Part} (hshape : slot.shape = .list (.named n))
    (hdef : format n = binder) : (Value.list (bs.map binderValue)).Fits format slot :=
  fits_list hshape fun b _ => fits_binder b rfl hdef

theorem fits_kind : ∀ (k : DeclKind) {slot : Slot Part}, slot.shape = .named .kind →
    (kindValue k).Fits format slot
  | .function ret params body, _, h =>
      .of_fields h rfl rfl (.cons (fits_ty ret rfl) (.cons (fits_binders params rfl rfl)
        (.cons (fits_optional rfl (fun ss => fits_body ss rfl) body) .nil)))
  | .variable t init, _, h =>
      .of_fields h rfl rfl (.cons (fits_ty t rfl) (.cons (fits_optionalExpr init rfl rfl) .nil))
  | .record tag fields, _, h =>
      .of_fields h rfl rfl (.cons (fits_recordTag tag rfl)
        (.cons (fits_optional rfl (fun fs => fits_binders fs rfl rfl) fields) .nil))
  | .enumeration _, _, h =>
      .of_fields h rfl rfl (.cons (fits_list rfl fun c _ => fits_constant c rfl) .nil)
  | .typedef t, _, h => .of_fields h rfl rfl (.cons (fits_ty t rfl) .nil)
  | .unsupported _, _, h => .of_fields h rfl rfl (.cons (.text rfl) .nil)

theorem optional?_body (body : Option (List Stmt)) :
    optional? body? (optional (fun ss => .list (stmtValues ss)) body) = some body :=
  optional?_optional rfl stmts?_stmtValues body

theorem optional?_binders (fields : Option (List Binder)) :
    optional? (list? binder?) (optional (fun fs => .list (fs.map binderValue)) fields)
      = some fields :=
  optional?_optional rfl (list?_list binder?_binderValue) fields

theorem kind?_kindValue : ∀ k : DeclKind, kind? (kindValue k) = some k
  | .function ret params body => by
      simp [kindValue, kind?, ty?_tyValue, list?_list binder?_binderValue, optional?_body]
  | .variable t init => by simp [kindValue, kind?, ty?_tyValue, optional?_expr]
  | .record tag fields => by
      simp [kindValue, kind?, recordTag?_recordTagValue, optional?_binders]
  | .enumeration cs => by simp [kindValue, kind?, list?_list constant?_constantValue]
  | .typedef t => by simp [kindValue, kind?, ty?_tyValue]
  | .unsupported _ => rfl

theorem fits_location (l : Location) (h : slot.shape = .named .location) :
    (locationValue l).Fits format slot :=
  .of_record h rfl (.cons (fits_word32 l.file.val rfl)
    (.cons (fits_word32 l.line rfl) (.cons (fits_word32 l.column rfl) .nil)))

theorem location?_locationValue (l : Location) : location? (locationValue l) = some l := by
  simp [locationValue, location?, word32?_word32]

theorem fits_decl (d : Decl) (h : slot.shape = .named .decl) :
    (declValue d).Fits format slot :=
  .of_record h rfl (.cons (fits_word32 d.id.val rfl) (.cons (.text rfl)
    (.cons (fits_list rfl fun _ _ => .text rfl)
    (.cons (fits_optional rfl (fun l => fits_location l rfl) d.location)
    (.cons (fits_optional rfl (fun _ => .text rfl) d.comment)
    (.cons (fits_kind d.kind rfl) .nil))))))

theorem decl?_declValue (d : Decl) : decl? (declValue d) = some d := by
  have htext : ∀ s : String, text? (.text s) = some s := fun _ => rfl
  have hscope := list?_list htext d.scope
  have hlocation := optional?_optional rfl location?_locationValue d.location
  have hcomment := optional?_optional rfl htext d.comment
  simp [declValue, decl?, word32?_word32, text?, hscope, hlocation, hcomment, kind?_kindValue]

/-! ## §6. Files and units. -/

theorem fits_provenance (p : Provenance) (h : slot.shape = .named .provenance) :
    (provenanceValue p).Fits format slot := by
  cases p <;> exact .unit h rfl rfl

theorem provenance?_provenanceValue (p : Provenance) :
    provenance? (provenanceValue p) = some p := by
  cases p <;> rfl

theorem fits_file (f : SourceFile) (h : slot.shape = .named .file) :
    (fileValue f).Fits format slot :=
  .of_record h rfl (.cons (fits_word32 f.id.val rfl) (.cons (.text rfl)
    (.cons (fits_provenance f.provenance rfl)
    (.cons (fits_optional rfl (fun id => fits_word32 id.val rfl) f.includedFrom) .nil))))

theorem file?_fileValue (f : SourceFile) : file? (fileValue f) = some f := by
  have hincluder : optional (fun id : FileId => word32 id.val) f.includedFrom
      = optional word32 (f.includedFrom.map (·.val)) := by
    cases f.includedFrom <;> rfl
  have hread := optional?_optional rfl word32?_word32 (f.includedFrom.map (·.val))
  simp [fileValue, file?, word32?_word32, text?, provenance?_provenanceValue, hincluder, hread,
    Function.comp_def]

theorem fits_unit (u : SourceUnit) (h : slot.shape = .named .unit) :
    (unitValue u).Fits format slot :=
  .of_record h rfl (.cons (fits_list rfl fun f _ => fits_file f rfl)
    (.cons (fits_list rfl fun d _ => fits_decl d rfl) .nil))

theorem unit?_unitValue (u : SourceUnit) : unit? (unitValue u) = some u := by
  simp [unitValue, unit?, list?_list file?_fileValue, list?_list decl?_declValue]

/-! ## §7. THE ROUND TRIP THEOREM. -/

/-- In the format, no two fields of one record or case have the same name. -/
theorem namesApart_format : Schema.NamesApart format := by
  intro n
  cases n <;> decide

namespace Codec

/-- A codec whose written values are values of the format, and are read back. -/
structure Faithful {α : Type} (c : Codec α) : Prop where
  fits : ∀ a, (c.toValue a).Fits format { shape := .named c.part }
  undoes : ∀ a, c.ofValue? (c.toValue a) = some a

/-- What a faithful codec writes it reads back. -/
theorem Faithful.read_write {α : Type} {c : Codec α} (h : c.Faithful) {a : α}
    (hdepth : (c.tree a).depth < 128) : c.read (c.write a) = .ok a := by
  have hdecoded : decode format c.part (encode format c.part (c.toValue a))
      = .ok (c.toValue a) :=
    decode_encode namesApart_format (h.fits a) (Nat.le_of_lt_succ hdepth)
  rw [read, write, String.toList_ofList, hdecoded]
  simp only [h.undoes]
  rfl

/-- What is written is read back, as long as its text nests arrays and objects fewer
than 128 deep. -/
def RoundTrips {α : Type} (c : Codec α) : Prop :=
  ∀ a, (c.tree a).depth < 128 → c.read (c.write a) = .ok a

end Codec

/-- **The round trip**: of every type of the model, each value whose text nests fewer
than 128 deep is read back from it. -/
theorem codecs_roundTrip :
    units.RoundTrips ∧ files.RoundTrips ∧ locations.RoundTrips ∧ decls.RoundTrips
      ∧ kinds.RoundTrips ∧ stmts.RoundTrips ∧ exprs.RoundTrips ∧ types.RoundTrips
      ∧ params.RoundTrips ∧ fields.RoundTrips := by
  have of_faithful : ∀ {α : Type} {c : Codec α}, c.Faithful → c.RoundTrips :=
    fun h _ hdepth => h.read_write hdepth
  exact ⟨of_faithful ⟨fun u => fits_unit u rfl, unit?_unitValue⟩,
    of_faithful ⟨fun f => fits_file f rfl, file?_fileValue⟩,
    of_faithful ⟨fun l => fits_location l rfl, location?_locationValue⟩,
    of_faithful ⟨fun d => fits_decl d rfl, decl?_declValue⟩,
    of_faithful ⟨fun k => fits_kind k rfl, kind?_kindValue⟩,
    of_faithful ⟨fun s => fits_stmt s rfl, stmt?_stmtValue⟩,
    of_faithful ⟨fun e => fits_expr e rfl, expr?_exprValue⟩,
    of_faithful ⟨fun t => fits_ty t rfl, ty?_tyValue⟩,
    of_faithful ⟨fun b => fits_binder b rfl rfl, binder?_binderValue⟩,
    of_faithful ⟨fun b => fits_binder b rfl rfl, binder?_binderValue⟩⟩

/-- A unit with a function that returns nothing, and a quote and a tab in its comment. -/
def unitOfFunction : SourceUnit where
  files := [⟨⟨0⟩, "m.cpp", .main, none⟩]
  decls := [⟨⟨1⟩, "f", ["n"], none, some "// \"\t",
    .function .void [⟨"p", .pointer .char⟩] (some [.ret none])⟩]

theorem codecs_roundTrip_of_function :
    (units.tree unitOfFunction).depth < 128
      ∧ units.read (units.write unitOfFunction) = .ok unitOfFunction := by
  obtain ⟨hunits, _⟩ := codecs_roundTrip
  exact ⟨by decide, hunits unitOfFunction (by decide)⟩

end DeclExport.Format
