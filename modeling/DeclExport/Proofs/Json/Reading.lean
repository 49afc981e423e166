/-
  DeclExport.Proofs.Json.Reading
  ────────────────────────────────
  **A WRITTEN TREE IS READ BACK.**

  Reading goes through the tokens of the tree, and both halves are inductions on
  the tree:

      text      scanned     →  tokens   in front of every rest
      tokens    assembled   →  tree     inside of all brackets that are open

  What is needed of the tree is that each of its leaves has a text (`IsSpelt`).  To be
  put together again it is enough that nothing in it is flawed (`read_of_tokens`).
-/
import DeclExport.Json.Reading
import DeclExport.Proofs.Json.Scanning

namespace DeclExport.Json

/-! ## §1. Trees with a text, and their tokens. -/

mutual

/-- A tree that nothing is broken in, with scalars and names that have a text. -/
def Tree.IsSpelt : Tree → Prop
  | .scalar s => s.IsSpelt
  | .array items => items.IsSpelt
  | .object members => members.IsSpelt
  | .broken _ => False

/-- Items that have a text, up to the closing bracket. -/
def Items.IsSpelt : Items → Prop
  | .close => True
  | .stop _ => False
  | .more item rest => item.IsSpelt ∧ rest.IsSpelt

/-- Members that have a text, up to the closing brace. -/
def Members.IsSpelt : Members → Prop
  | .close => True
  | .stop _ => False
  | .more key value rest => (∃ s, key = .name (some s)) ∧ value.IsSpelt ∧ rest.IsSpelt

end

/-- An array has a text if its items do. -/
theorem Tree.isSpelt_ofItems (ts : List Tree) :
    (Tree.ofItems ts).IsSpelt ↔ ∀ t ∈ ts, t.IsSpelt := by
  show (Items.ofList ts).IsSpelt ↔ _
  induction ts with
  | nil => simp [Items.ofList, Items.IsSpelt]
  | cons t ts ih => rw [Items.ofList, Items.IsSpelt, ih, List.forall_mem_cons]

/-- An object has a text if its members do. -/
theorem Tree.isSpelt_ofMembers (ms : List (String × Tree)) :
    (Tree.ofMembers ms).IsSpelt ↔ ∀ m ∈ ms, m.2.IsSpelt := by
  show (Members.ofList ms).IsSpelt ↔ _
  induction ms with
  | nil => simp [Members.ofList, Members.IsSpelt]
  | cons m ms ih => simp [Members.ofList, Members.IsSpelt, ih]

/-- The token of a member name. -/
def Key.token : Key → Token
  | .name s => .scalar (.string s)
  | .misplaced => .scalar .null
  | .broken b => .broken b

mutual

/-- The tokens of a tree. -/
def Tree.tokens : Tree → List Token
  | .scalar s => [.scalar s]
  | .array .close => [.openArray, .closeArray]
  | .array (.stop _) => [.openArray]
  | .array (.more item rest) => .openArray :: (item.tokens ++ rest.tokens)
  | .object .close => [.openObject, .closeObject]
  | .object (.stop _) => [.openObject]
  | .object (.more key value rest) =>
      .openObject :: key.token :: .colon :: (value.tokens ++ rest.tokens)
  | .broken b => [.broken b]

/-- The tokens after an item. -/
def Items.tokens : Items → List Token
  | .close => [.closeArray]
  | .stop _ => []
  | .more item rest => .comma :: (item.tokens ++ rest.tokens)

/-- The tokens after a member. -/
def Members.tokens : Members → List Token
  | .close => [.closeObject]
  | .stop _ => []
  | .more key value rest => .comma :: key.token :: .colon :: (value.tokens ++ rest.tokens)

end

/-! ## §2. From the text to the tokens. -/

/-- What follows an item goes on with no number. -/
theorem terminates_items {items : Items} (h : items.IsSpelt) (rest : List Char) :
    Terminates (items.text ++ rest) := by
  cases items with
  | close => exact terminates_cons (by decide) _
  | more item items => exact terminates_cons (by decide) _
  | stop f => exact h.elim

/-- What follows a member goes on with no number. -/
theorem terminates_members {members : Members} (h : members.IsSpelt) (rest : List Char) :
    Terminates (members.text ++ rest) := by
  cases members with
  | close => exact terminates_cons (by decide) _
  | more key value members => exact terminates_cons (by decide) _
  | stop f => exact h.elim

/-- A member up to its value. -/
theorem delimited_key (s : String) {w : List Char} {ts : List Token} (h : Delimited w ts) :
    Delimited ((Key.name (some s)).text ++ ':' :: w) ((Key.name (some s)).token :: .colon :: ts) :=
  (delimited_stringText s).append (delimited_colon.append h)

mutual

/-- The text of a tree is scanned to its tokens. -/
theorem Tree.scansTo_text : ∀ {t : Tree}, t.IsSpelt → ScansTo t.text t.tokens
  | .scalar _, h => scansTo_scalar h
  | .array .close, _ => (delimited_openArray.append delimited_closeArray).scansTo
  | .array (.more item rest), ⟨hitem, hrest⟩ =>
      have hitems : Delimited (item.text ++ rest.text) (item.tokens ++ rest.tokens) :=
        (Tree.scansTo_text hitem).append (Items.delimited_text hrest) (terminates_items hrest)
      (delimited_openArray.append hitems).scansTo
  | .object .close, _ => (delimited_openObject.append delimited_closeObject).scansTo
  | .object (.more key value rest), ⟨hkey, hvalue, hrest⟩ => by
      have hmembers : Delimited (value.text ++ rest.text) (value.tokens ++ rest.tokens) :=
        (Tree.scansTo_text hvalue).append (Members.delimited_text hrest)
          (terminates_members hrest)
      obtain ⟨s, rfl⟩ := hkey
      have hobject := delimited_openObject.append (delimited_key s hmembers)
      simpa [Tree.text, Tree.tokens] using hobject.scansTo

/-- The text after an item is scanned to its tokens. -/
theorem Items.delimited_text : ∀ {items : Items}, items.IsSpelt →
    Delimited items.text items.tokens
  | .close, _ => delimited_closeArray
  | .more item rest, ⟨hitem, hrest⟩ =>
      have hitems : Delimited (item.text ++ rest.text) (item.tokens ++ rest.tokens) :=
        (Tree.scansTo_text hitem).append (Items.delimited_text hrest) (terminates_items hrest)
      delimited_comma.append hitems

/-- The text after a member is scanned to its tokens. -/
theorem Members.delimited_text : ∀ {members : Members}, members.IsSpelt →
    Delimited members.text members.tokens
  | .close, _ => delimited_closeObject
  | .more key value rest, ⟨hkey, hvalue, hrest⟩ => by
      have hmembers : Delimited (value.text ++ rest.text) (value.tokens ++ rest.tokens) :=
        (Tree.scansTo_text hvalue).append (Members.delimited_text hrest)
          (terminates_members hrest)
      obtain ⟨s, rfl⟩ := hkey
      have hmember := delimited_comma.append (delimited_key s hmembers)
      simpa [Members.text, Members.tokens] using hmember

end

/-! ## §3. From the tokens to the tree. -/

theorem Items.skipFlaw?_more {item : Tree} {rest : Items} :
    (Items.more item rest).skipFlaw? = none
      ↔ item.skipFlaw? = none ∧ rest.skipFlaw? = none := by
  rw [Items.skipFlaw?]
  simp

theorem Members.skipFlaw?_more {key : Key} {value : Tree} {rest : Members} :
    (Members.more key value rest).skipFlaw? = none
      ↔ (∃ s, key = .name s) ∧ value.skipFlaw? = none ∧ rest.skipFlaw? = none := by
  cases key <;> simp [Members.skipFlaw?, Key.skipFlaw?]

mutual

/-- A tree with a text has no flaw. -/
theorem Tree.IsSpelt.skipFlaw? : ∀ {t : Tree}, t.IsSpelt → t.skipFlaw? = none
  | .scalar _, _ => rfl
  | .array items, h => Items.IsSpelt.skipFlaw? (show items.IsSpelt from h)
  | .object members, h => Members.IsSpelt.skipFlaw? (show members.IsSpelt from h)

theorem Items.IsSpelt.skipFlaw? : ∀ {items : Items}, items.IsSpelt → items.skipFlaw? = none
  | .close, _ => rfl
  | .more _ _, ⟨hitem, hrest⟩ =>
      Items.skipFlaw?_more.mpr ⟨hitem.skipFlaw?, hrest.skipFlaw?⟩

theorem Members.IsSpelt.skipFlaw? : ∀ {members : Members}, members.IsSpelt →
    members.skipFlaw? = none
  | .close, _ => rfl
  | .more _ _ _, ⟨⟨s, hkey⟩, hvalue, hrest⟩ =>
      Members.skipFlaw?_more.mpr ⟨⟨some s, hkey⟩, hvalue.skipFlaw?, hrest.skipFlaw?⟩

end

namespace Assembly

/-- After an opening bracket, whatever is not the closing one is the first item. -/
theorem step_firstItem {t : Token} (h : t ≠ .closeArray) (outer : List Frame) :
    step (.firstItem outer) t = step (.value (.array [] :: outer)) t := by
  cases t <;> first | rfl | exact absurd rfl h

/-- The tokens of a tree begin with one that is not a closing bracket. -/
theorem foldl_step_firstItem (t : Tree) (outer : List Frame) :
    t.tokens.foldl step (.firstItem outer)
      = t.tokens.foldl step (.value (.array [] :: outer)) := by
  obtain ⟨tok, toks, htokens, hne⟩ : ∃ tok toks, t.tokens = tok :: toks ∧ tok ≠ .closeArray := by
    match t with
    | .scalar _ | .broken _ | .array .close | .array (.stop _) | .array (.more ..)
    | .object .close | .object (.stop _) | .object (.more ..) => exact ⟨_, _, rfl, by simp⟩
  rw [htokens, List.foldl_cons, List.foldl_cons, step_firstItem hne]

end Assembly

open Assembly (step settle foldl_step_firstItem)

mutual

/-- Inside of all brackets that are open, a tree without flaws is assembled from its
tokens. -/
theorem Tree.foldl_step_tokens : ∀ {t : Tree} (outer : List Frame), t.skipFlaw? = none →
    t.tokens.foldl step (.value outer) = settle t outer
  | .scalar _, _, _ => rfl
  | .array .close, _, _ => rfl
  | .array (.more item rest), outer, h => by
      obtain ⟨hitem, hrest⟩ := Items.skipFlaw?_more.mp h
      rw [Tree.tokens, List.foldl_cons, List.foldl_append]
      show rest.tokens.foldl step (item.tokens.foldl step (.firstItem outer)) = _
      rw [foldl_step_firstItem item outer, Tree.foldl_step_tokens _ hitem]
      exact Items.foldl_step_tokens [item] outer hrest
  | .object .close, _, _ => rfl
  | .object (.more key value rest), outer, h => by
      obtain ⟨⟨s, rfl⟩, hvalue, hrest⟩ := Members.skipFlaw?_more.mp h
      rw [Tree.tokens, List.foldl_cons, List.foldl_cons, List.foldl_cons, List.foldl_append]
      show rest.tokens.foldl step
        (value.tokens.foldl step (.value (.object [] (.name s) :: outer))) = _
      rw [Tree.foldl_step_tokens _ hvalue]
      exact Members.foldl_step_tokens [(.name s, value)] outer hrest

/-- Items are assembled behind those that are there. -/
theorem Items.foldl_step_tokens : ∀ {rest : Items} (items : List Tree) (outer : List Frame),
    rest.skipFlaw? = none →
      rest.tokens.foldl step (.afterItem items outer) = settle (arrayOf items rest) outer
  | .close, _, _, _ => rfl
  | .more item rest, items, outer, h => by
      obtain ⟨hitem, hrest⟩ := Items.skipFlaw?_more.mp h
      rw [Items.tokens, List.foldl_cons, List.foldl_append]
      show rest.tokens.foldl step
        (item.tokens.foldl step (.value (.array items :: outer))) = _
      rw [Tree.foldl_step_tokens _ hitem]
      exact Items.foldl_step_tokens (item :: items) outer hrest

/-- Members are assembled behind those that are there. -/
theorem Members.foldl_step_tokens : ∀ {rest : Members} (members : List (Key × Tree))
    (outer : List Frame), rest.skipFlaw? = none →
      rest.tokens.foldl step (.afterMember members outer)
        = settle (objectOf members rest) outer
  | .close, _, _, _ => rfl
  | .more key value rest, members, outer, h => by
      obtain ⟨⟨s, rfl⟩, hvalue, hrest⟩ := Members.skipFlaw?_more.mp h
      rw [Members.tokens, List.foldl_cons, List.foldl_cons, List.foldl_cons, List.foldl_append]
      show rest.tokens.foldl step
        (value.tokens.foldl step (.value (.object members (.name s) :: outer))) = _
      rw [Tree.foldl_step_tokens _ hvalue]
      exact Members.foldl_step_tokens ((.name s, value) :: members) outer hrest

end

/-- A tree without flaws is read from every text with its tokens. -/
theorem read_of_tokens {t : Tree} {text : List Char} (h : t.skipFlaw? = none)
    (htokens : tokens text = t.tokens) : read text = (t, false) := by
  rw [read, htokens, Tree.foldl_step_tokens [] h]
  rfl

/-! ## §4. THE READING THEOREM. -/

/-- **What is written is read back**, and nothing follows it. -/
theorem read_text {t : Tree} (h : t.IsSpelt) : read t.text = (t, false) :=
  read_of_tokens h.skipFlaw? (Tree.scansTo_text h).tokens_eq

end DeclExport.Json
