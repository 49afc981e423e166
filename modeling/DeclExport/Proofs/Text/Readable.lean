/-
  DeclExport.Proofs.Text.Readable
  ────────────────────────────────
  **CODES THAT ARE READ OFF THE FRONT OF A TEXT.**

  A code writes values as texts.  A value is *readable* if a text that begins
  with its code begins with the code of no other value, whatever follows:

      code a ++ r = code b ++ r'  →  a = b

  So a reader needs no mark behind the value to know where it ends.  A code
  that needs a mark is read together with it.
-/
import Mathlib.Data.List.Infix

namespace DeclExport.Text

variable {α : Type}

/-- No text that begins with the code of `a` begins with that of another value. -/
def Readable (code : α → String) (a : α) : Prop :=
  ∀ b (r r' : List Char), (code a).toList ++ r = (code b).toList ++ r' → a = b

/-! ## §1. Reading a value. -/

/-- What follows a readable value is read as well. -/
theorem Readable.rest {code : α → String} {a b : α} {r r' : List Char}
    (ha : Readable code a) (h : (code a).toList ++ r = (code b).toList ++ r') :
    a = b ∧ r = r' := by
  obtain rfl := ha b r r' h
  exact ⟨rfl, List.append_cancel_left h⟩

/-- A readable value in front of another text. -/
theorem Readable.next {code : α → String} {a b : α} {x y : String} {r r' : List Char}
    (ha : Readable code a)
    (h : (code a ++ x).toList ++ r = (code b ++ y).toList ++ r') :
    a = b ∧ x.toList ++ r = y.toList ++ r' := by
  rw [String.toList_append, String.toList_append, List.append_assoc,
    List.append_assoc] at h
  exact ha.rest h

/-- A readable value with a text behind it. -/
theorem Readable.marked {code : α → String} {a : α} (ha : Readable code a)
    (mark : String) : Readable (fun a => code a ++ mark) a := by
  intro b r r' h
  exact (ha.next h).1

/-- The same text in front of two others. -/
theorem append_text_cancel {t x y : String} {r r' : List Char}
    (h : (t ++ x).toList ++ r = (t ++ y).toList ++ r') :
    x.toList ++ r = y.toList ++ r' := by
  rw [String.toList_append, String.toList_append, List.append_assoc,
    List.append_assoc] at h
  exact List.append_cancel_left h

/-- A code is readable if none of its texts is a prefix of another. -/
theorem readable_of_not_prefix {code : α → String}
    (h : ∀ a b, (code a).toList <+: (code b).toList → a = b) (a : α) : Readable code a := by
  intro b r r' heq
  have ha : (code a).toList <+: (code b).toList ++ r' := ⟨r, heq⟩
  have hb : (code b).toList <+: (code b).toList ++ r' := List.prefix_append _ _
  rcases List.prefix_or_prefix_of_prefix ha hb with hab | hba
  · exact h a b hab
  · exact (h b a hba).symm

/-! ## §2. Marks. -/

/-- A text of one kind of characters ends where another kind begins. -/
theorem append_cons_inj_of_all {p : Char → Bool} {xs ys r r' : List Char} {c c' : Char}
    (hxs : ∀ x ∈ xs, p x = true) (hys : ∀ y ∈ ys, p y = true)
    (hc : p c = false) (hc' : p c' = false) (h : xs ++ c :: r = ys ++ c' :: r') :
    xs = ys := by
  have htake := congrArg (List.takeWhile p) h
  rw [List.takeWhile_append_of_pos hxs, List.takeWhile_append_of_pos hys,
    List.takeWhile_cons_of_neg (by simp [hc]),
    List.takeWhile_cons_of_neg (by simp [hc'])] at htake
  simpa using htake

end DeclExport.Text
