/-
  DeclExport.Proofs.Json.Spelling
  ────────────────────────────────
  **THE TEXTS OF A TREE.**

  A tree has many texts: between its tokens any blanks may stand, and a scalar may be
  written in any way that is scanned to it (`Tree.SpeltAs`).  The reader finds the tree
  from each of them, and from no other text:

      read text  =  the tree, and nothing behind it   ↔   text is one of the tree's texts

  For the way back the assembly is followed token by token: wherever it stands, what it
  holds accounts for all the tokens it has been given, or it holds a flaw.
-/
import DeclExport.Proofs.Json.Lexemes
import DeclExport.Proofs.Json.Reading

namespace DeclExport.Json

/-- The text is one of the tree: its tokens in their order, with any blanks.  A tree with
a flaw has no text. -/
structure Tree.SpeltAs (t : Tree) (text : List Char) : Prop where
  complete : t.skipFlaw? = none
  spaced : Spaced t.tokens text

/-! ## §1. The tokens of a tree without flaws. -/

/-- Behind punctuation and in front of it anything may stand. -/
@[simp] theorem apart_comma (t : Token) : Apart t .comma := by cases t <;> trivial

@[simp] theorem apart_closeArray (t : Token) : Apart t .closeArray := by cases t <;> trivial

@[simp] theorem apart_closeObject (t : Token) : Apart t .closeObject := by cases t <;> trivial

/-- What follows an item is punctuation. -/
theorem apart_items {items : Items} (h : items.skipFlaw? = none) (t : Token) :
    ∀ u ∈ items.tokens.head?, Apart t u := by
  cases items with
  | close => simp [Items.tokens]
  | more item rest => simp [Items.tokens]
  | stop f => simp [Items.skipFlaw?] at h

/-- What follows a member is punctuation. -/
theorem apart_members {members : Members} (h : members.skipFlaw? = none) (t : Token) :
    ∀ u ∈ members.tokens.head?, Apart t u := by
  cases members with
  | close => simp [Members.tokens]
  | more key value rest => simp [Members.tokens]
  | stop f => simp [Members.skipFlaw?] at h

/-- Tokens with punctuation in front of them and behind them. -/
theorem isChain_between {tok : Token} {ts us : List Token} (htok : ∀ t, Apart tok t)
    (hts : ts.IsChain Apart) (hus : us.IsChain Apart) (h : ∀ t, ∀ u ∈ us.head?, Apart t u) :
    (tok :: (ts ++ us)).IsChain Apart :=
  List.isChain_cons.mpr
    ⟨fun t _ => htok t, List.isChain_append.mpr ⟨hts, hus, fun t _ => h t⟩⟩

/-- The name of a member, in front of its colon. -/
theorem isChain_name (tok : Token) {ts : List Token} (htok : ∀ t, Apart tok t)
    (s : Option String) (h : (.colon :: ts).IsChain Apart) :
    (tok :: (Key.name s).token :: .colon :: ts).IsChain Apart :=
  List.isChain_cons_cons.mpr ⟨htok _, List.isChain_cons_cons.mpr ⟨trivial, h⟩⟩

mutual

/-- No two scalars stand beside each other in a tree. -/
theorem Tree.isChain_tokens : ∀ {t : Tree}, t.skipFlaw? = none → t.tokens.IsChain Apart
  | .scalar _, _ => .singleton _
  | .array .close, _ => by simp [Tree.tokens]
  | .array (.more item rest), h => by
      obtain ⟨hitem, hrest⟩ := Items.skipFlaw?_more.mp h
      exact isChain_between (fun _ => trivial) (Tree.isChain_tokens hitem)
        (Items.isChain_tokens hrest) (apart_items hrest)
  | .object .close, _ => by simp [Tree.tokens]
  | .object (.more key value rest), h => by
      obtain ⟨⟨s, rfl⟩, hvalue, hrest⟩ := Members.skipFlaw?_more.mp h
      have hpart : (.colon :: (value.tokens ++ rest.tokens)).IsChain Apart :=
        isChain_between (fun _ => trivial) (Tree.isChain_tokens hvalue)
          (Members.isChain_tokens hrest) (apart_members hrest)
      exact isChain_name .openObject (fun _ => trivial) s hpart

theorem Items.isChain_tokens : ∀ {items : Items}, items.skipFlaw? = none →
    items.tokens.IsChain Apart
  | .close, _ => .singleton _
  | .more item rest, h => by
      obtain ⟨hitem, hrest⟩ := Items.skipFlaw?_more.mp h
      exact isChain_between (fun _ => trivial) (Tree.isChain_tokens hitem)
        (Items.isChain_tokens hrest) (apart_items hrest)

theorem Members.isChain_tokens : ∀ {members : Members}, members.skipFlaw? = none →
    members.tokens.IsChain Apart
  | .close, _ => .singleton _
  | .more key value rest, h => by
      obtain ⟨⟨s, rfl⟩, hvalue, hrest⟩ := Members.skipFlaw?_more.mp h
      have hpart : (.colon :: (value.tokens ++ rest.tokens)).IsChain Apart :=
        isChain_between (fun _ => trivial) (Tree.isChain_tokens hvalue)
          (Members.isChain_tokens hrest) (apart_members hrest)
      exact isChain_name .comma (fun _ => trivial) s hpart

end

mutual

/-- No token of a tree without flaws is a break. -/
theorem Tree.broken_notMem_tokens (b : Break) : ∀ {t : Tree}, t.skipFlaw? = none →
    .broken b ∉ t.tokens
  | .scalar _, _ => by simp [Tree.tokens]
  | .array .close, _ => by simp [Tree.tokens]
  | .array (.more item rest), h => by
      obtain ⟨hitem, hrest⟩ := Items.skipFlaw?_more.mp h
      simp [Tree.tokens, Tree.broken_notMem_tokens b hitem, Items.broken_notMem_tokens b hrest]
  | .object .close, _ => by simp [Tree.tokens]
  | .object (.more key value rest), h => by
      obtain ⟨⟨s, rfl⟩, hvalue, hrest⟩ := Members.skipFlaw?_more.mp h
      simp [Tree.tokens, Key.token, Tree.broken_notMem_tokens b hvalue,
        Members.broken_notMem_tokens b hrest]

theorem Items.broken_notMem_tokens (b : Break) : ∀ {items : Items}, items.skipFlaw? = none →
    .broken b ∉ items.tokens
  | .close, _ => by simp [Items.tokens]
  | .more item rest, h => by
      obtain ⟨hitem, hrest⟩ := Items.skipFlaw?_more.mp h
      simp [Items.tokens, Tree.broken_notMem_tokens b hitem, Items.broken_notMem_tokens b hrest]

theorem Members.broken_notMem_tokens (b : Break) : ∀ {members : Members},
    members.skipFlaw? = none → .broken b ∉ members.tokens
  | .close, _ => by simp [Members.tokens]
  | .more key value rest, h => by
      obtain ⟨⟨s, rfl⟩, hvalue, hrest⟩ := Members.skipFlaw?_more.mp h
      simp [Members.tokens, Key.token, Tree.broken_notMem_tokens b hvalue,
        Members.broken_notMem_tokens b hrest]

end

/-! ## §2. What an assembly holds. -/

/-- The tokens of an open array, up to its next item. -/
def itemsBefore : List Tree → List Token
  | [] => [.openArray]
  | item :: items => itemsBefore items ++ item.tokens ++ [.comma]

/-- The tokens of an open object, up to the name of its next member. -/
def membersBefore : List (Key × Tree) → List Token
  | [] => [.openObject]
  | m :: members => membersBefore members ++ m.1.token :: .colon :: m.2.tokens ++ [.comma]

/-- The tokens of an open bracket, up to the value that is being read. -/
def Frame.tokens : Frame → List Token
  | .array items => itemsBefore items
  | .object members key => membersBefore members ++ [key.token, .colon]

/-- The tokens of all open brackets, the innermost one first in the list. -/
def tokensBefore : List Frame → List Token
  | [] => []
  | frame :: outer => tokensBefore outer ++ frame.tokens

/-- The tokens of an array, from the ones it is assembled of. -/
theorem tokens_arrayOf (item : Tree) (items : List Tree) (rest : Items) :
    (arrayOf (item :: items) rest).tokens = itemsBefore items ++ item.tokens ++ rest.tokens := by
  induction items generalizing item rest with
  | nil => rfl
  | cons u items ih =>
      have hitem : arrayOf (item :: u :: items) rest = arrayOf (u :: items) (.more item rest) :=
        rfl
      rw [hitem, ih, itemsBefore, Items.tokens]
      simp

/-- The tokens of an object, from the ones it is assembled of. -/
theorem tokens_objectOf (m : Key × Tree) (members : List (Key × Tree)) (rest : Members) :
    (objectOf (m :: members) rest).tokens
      = membersBefore members ++ m.1.token :: .colon :: m.2.tokens ++ rest.tokens := by
  induction members generalizing m rest with
  | nil => simp [objectOf, Tree.tokens, membersBefore]
  | cons u members ih =>
      have hmember : objectOf (m :: u :: members) rest
          = objectOf (u :: members) (.more m.1 m.2 rest) := rfl
      rw [hmember, ih, membersBefore, Members.tokens]
      simp

/-- What the assembly holds accounts for the tokens it has been given, unless it holds a
flaw or has been given a token too many. -/
inductive Accounts : Assembly → List Token → Prop
  | value {outer : List Frame} : Accounts (.value outer) (tokensBefore outer)
  | firstItem {outer : List Frame} :
      Accounts (.firstItem outer) (tokensBefore outer ++ [.openArray])
  | afterItem {item : Tree} {items : List Tree} {outer : List Frame} :
      Accounts (.afterItem (item :: items) outer)
        (tokensBefore outer ++ (itemsBefore items ++ item.tokens))
  | firstName {outer : List Frame} :
      Accounts (.firstName outer) (tokensBefore outer ++ [.openObject])
  | name {members : List (Key × Tree)} {outer : List Frame} :
      Accounts (.name members outer) (tokensBefore outer ++ membersBefore members)
  | colon {members : List (Key × Tree)} {key : Key} {outer : List Frame} :
      Accounts (.colon members key outer)
        (tokensBefore outer ++ (membersBefore members ++ [key.token]))
  | afterMember {m : Key × Tree} {members : List (Key × Tree)} {outer : List Frame} :
      Accounts (.afterMember (m :: members) outer)
        (tokensBefore outer ++ (membersBefore members ++ m.1.token :: .colon :: m.2.tokens))
  | complete {t : Tree} : Accounts (.complete t false) t.tokens
  | flawed {t : Tree} {trailing : Bool} {ts : List Token} : t.skipFlaw? ≠ none →
      Accounts (.complete t trailing) ts
  | trailing {t : Tree} {ts : List Token} : Accounts (.complete t true) ts

/-! ## §3. Broken brackets. -/

theorem skipFlaw?_arrayOf {items : List Tree} {ending : Items} (h : ending.skipFlaw? ≠ none) :
    (arrayOf items ending).skipFlaw? ≠ none := by
  induction items generalizing ending with
  | nil => exact h
  | cons item items ih => exact ih fun hnone => h (Items.skipFlaw?_more.mp hnone).2

theorem skipFlaw?_objectOf {members : List (Key × Tree)} {ending : Members}
    (h : ending.skipFlaw? ≠ none) : (objectOf members ending).skipFlaw? ≠ none := by
  induction members generalizing ending with
  | nil => exact h
  | cons m members ih => exact ih fun hnone => h (Members.skipFlaw?_more.mp hnone).2.2

/-- A flaw is kept by all the brackets around it. -/
theorem skipFlaw?_breakOff {t : Tree} (h : t.skipFlaw? ≠ none) (outer : List Frame) :
    (breakOff t outer).skipFlaw? ≠ none := by
  induction outer generalizing t with
  | nil => exact h
  | cons frame outer ih =>
      cases frame with
      | array items =>
          exact ih (skipFlaw?_arrayOf fun hnone => h (Items.skipFlaw?_more.mp hnone).1)
      | object members key =>
          exact ih (skipFlaw?_objectOf fun hnone => h (Members.skipFlaw?_more.mp hnone).2.1)

namespace Accounts

theorem settle (t : Tree) (outer : List Frame) :
    Accounts (Assembly.settle t outer) (tokensBefore outer ++ t.tokens) := by
  cases outer with
  | nil => exact .complete
  | cons frame outer =>
      rw [tokensBefore, List.append_assoc]
      cases frame with
      | array items => exact .afterItem
      | object members key =>
          rw [Frame.tokens, List.append_assoc]
          exact .afterMember

theorem breakValue (b : Break) (outer : List Frame) (ts : List Token) :
    Accounts (Assembly.breakValue b outer) ts :=
  .flawed (skipFlaw?_breakOff (by simp [Tree.skipFlaw?]) outer)

theorem breakName (key : Key) (members : List (Key × Tree)) (outer : List Frame)
    (ts : List Token) : Accounts (Assembly.breakName key members outer) ts := by
  refine .flawed (skipFlaw?_breakOff (skipFlaw?_objectOf ?_) outer)
  simp [Members.skipFlaw?, Tree.skipFlaw?]

/-- A token where a value is due. -/
theorem stepValue (outer : List Frame) (tok : Token) :
    Accounts (Assembly.stepValue outer tok) (tokensBefore outer ++ [tok]) := by
  cases tok with
  | scalar s => exact settle (.scalar s) outer
  | openArray => exact .firstItem
  | openObject => exact .firstName
  | broken b => exact breakValue b outer _
  | closeArray | closeObject | comma | colon => exact breakValue .stray outer _

/-- A token where a member name is due. -/
theorem stepName (members : List (Key × Tree)) (outer : List Frame) (tok : Token) :
    Accounts (Assembly.stepName members outer tok)
      (tokensBefore outer ++ membersBefore members ++ [tok]) := by
  rw [List.append_assoc]
  match tok with
  | .scalar (.string s) => exact (.colon : Accounts (.colon members (.name s) outer) _)
  | .scalar .null | .scalar (.bool _) | .scalar (.number _) | .openArray | .openObject =>
      exact breakName _ _ _ _
  | .broken b => exact breakName _ _ _ _
  | .closeArray | .closeObject | .comma | .colon => exact breakName _ _ _ _

/-- One more token. -/
theorem step {a : Assembly} {ts : List Token} (h : Accounts a ts) (tok : Token) :
    Accounts (a.step tok) (ts ++ [tok]) := by
  -- a token that is not due breaks off, and what is broken off is flawed
  cases h with
  | @value outer => exact stepValue outer tok
  | @firstItem outer =>
      by_cases htok : tok = .closeArray
      · subst htok
        rw [List.append_assoc]
        exact settle (.array .close) outer
      · rw [Assembly.step_firstItem htok]
        exact stepValue (.array [] :: outer) tok
  | @afterItem item items outer =>
      rw [List.append_assoc]
      cases tok with
      | comma => exact .value
      | closeArray =>
          rw [← Items.tokens, ← tokens_arrayOf]
          exact settle (arrayOf (item :: items) .close) outer
      | openArray | openObject | closeObject | colon | scalar _ | broken _ =>
          exact .flawed (skipFlaw?_breakOff (skipFlaw?_arrayOf (by simp [Items.skipFlaw?])) outer)
  | @firstName outer =>
      by_cases htok : tok = .closeObject
      · subst htok
        rw [List.append_assoc]
        exact settle (.object .close) outer
      · have hstep : Assembly.step (.firstName outer) tok = Assembly.stepName [] outer tok := by
          cases tok <;> first | rfl | exact absurd rfl htok
        rw [hstep]
        exact stepName [] outer tok
  | @name members outer => exact stepName members outer tok
  | @colon members key outer =>
      by_cases htok : tok = .colon
      · subst htok
        rw [List.append_assoc, List.append_assoc]
        exact .value
      · have hstep : Assembly.step (.colon members key outer) tok
            = Assembly.breakValue .stray (.object members key :: outer) := by
          cases tok <;> first | rfl | exact absurd rfl htok
        rw [hstep]
        exact breakValue _ _ _
  | @afterMember m members outer =>
      rw [List.append_assoc]
      cases tok with
      | comma => exact .name
      | closeObject =>
          rw [← Members.tokens, ← tokens_objectOf]
          exact settle (objectOf (m :: members) .close) outer
      | openArray | openObject | closeArray | colon | scalar _ | broken _ =>
          exact .flawed
            (skipFlaw?_breakOff (skipFlaw?_objectOf (by simp [Members.skipFlaw?])) outer)
  | complete => exact .trailing
  | flawed hflaw => exact .flawed hflaw
  | trailing => exact .trailing

theorem foldl {a : Assembly} {ts : List Token} (h : Accounts a ts) (us : List Token) :
    Accounts (us.foldl Assembly.step a) (ts ++ us) := by
  induction us generalizing a ts with
  | nil => simpa using h
  | cons u us ih => simpa using ih (h.step u)

/-- At the end of the text, either the tree accounts for all tokens or something is wrong
with it. -/
theorem finish {a : Assembly} {ts : List Token} {t : Tree} (h : Accounts a ts)
    (hfinish : a.finish = (t, false)) (hflaw : t.skipFlaw? = none) : ts = t.tokens := by
  -- what is finished before it is complete has been broken off
  have hopen : ∀ {broken : Tree} (outer : List Frame), broken.skipFlaw? ≠ none →
      (breakOff broken outer, false) ≠ (t, false) := fun outer hbroken heq =>
    skipFlaw?_breakOff hbroken outer ((Prod.mk.inj heq).1 ▸ hflaw)
  cases h with
  | complete => exact (congrArg Tree.tokens (Prod.mk.inj hfinish).1)
  | flawed hne => exact absurd ((Prod.mk.inj hfinish).1 ▸ hflaw) hne
  | trailing => exact absurd (Prod.mk.inj hfinish).2 (by simp)
  | value => exact absurd hfinish (hopen _ (by simp [Tree.skipFlaw?]))
  | firstItem => exact absurd hfinish (hopen _ (by simp [Tree.skipFlaw?, Items.skipFlaw?]))
  | afterItem => exact absurd hfinish (hopen _ (skipFlaw?_arrayOf (by simp [Items.skipFlaw?])))
  | firstName => exact absurd hfinish (hopen _ (by simp [Tree.skipFlaw?, Members.skipFlaw?]))
  | name =>
      exact absurd hfinish
        (hopen _ (skipFlaw?_objectOf (by simp [Tree.skipFlaw?, Members.skipFlaw?])))
  | colon => exact absurd hfinish (hopen (_ :: _) (by simp [Tree.skipFlaw?]))
  | afterMember =>
      exact absurd hfinish (hopen _ (skipFlaw?_objectOf (by simp [Members.skipFlaw?])))

end Accounts

/-! ## §4. THE SPELLING THEOREM. -/

namespace Tree.SpeltAs

variable {t u : Tree} {text : List Char}

/-- A tree is read from each of its texts. -/
theorem read_eq (h : t.SpeltAs text) : read text = (t, false) :=
  read_of_tokens h.complete (h.spaced.tokens_eq (Tree.isChain_tokens h.complete))

/-- A text is one of the tree if it has its tokens. -/
theorem of_tokens (hflaw : t.skipFlaw? = none) (htokens : Json.tokens text = t.tokens) :
    t.SpeltAs text := by
  refine ⟨hflaw, ?_⟩
  rw [← htokens]
  exact spaced_tokens fun b => htokens ▸ Tree.broken_notMem_tokens b hflaw

/-- **A text is one of the tree that is read from it**, unless something is wrong with
it. -/
theorem of_read_eq (hflaw : t.skipFlaw? = none) (hread : read text = (t, false)) :
    t.SpeltAs text := by
  have haccounts :
      Accounts ((Json.tokens text).foldl Assembly.step (.value [])) (Json.tokens text) :=
    Accounts.value.foldl _
  exact of_tokens hflaw (haccounts.finish hread hflaw)

/-- A text is one of no more than one tree. -/
theorem unique (ht : t.SpeltAs text) (hu : u.SpeltAs text) : t = u :=
  (Prod.mk.inj (ht.read_eq.symm.trans hu.read_eq)).1

end Tree.SpeltAs

end DeclExport.Json
