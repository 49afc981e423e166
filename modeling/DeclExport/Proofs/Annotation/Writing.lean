/-
  DeclExport.Proofs.Annotation.Writing
  ────────────────────────────────
  **ANNOTATIONS SURVIVE WRITING AND READING.**

  An annotation is written on a line of its own, in one of three styles:

      /** @key value */      block
      /// @key value         line
       * @key value          star

  What a reader takes off a line is blanks, one opening marker, one closing marker
  and one star, in a fixed order.  What stands between the markers begins with `@`
  and neither begins nor ends with a blank, so the markers are all that is taken off
  (`content_write`).  One thing can go wrong: where no closing marker is written, a
  value that ends in one would lose it.

  And nothing else is ever read: whatever the comment, the annotations in it are such
  that they can be written (`isWritable_of_mem_annotations`).
-/
import DeclExport.Proofs.Annotation.Fragments

namespace DeclExport

open Text

/-! ## §1. Annotations that can be written. -/

/-- ASCII letters and digits, `_` and `-`. -/
def Comment.IsKeyLetter (c : Char) : Prop :=
  ('A' ≤ c ∧ c ≤ 'Z') ∨ ('a' ≤ c ∧ c ≤ 'z') ∨ ('0' ≤ c ∧ c ≤ '9') ∨ c = '_' ∨ c = '-'

instance (c : Char) : Decidable (Comment.IsKeyLetter c) :=
  inferInstanceAs (Decidable (_ ∨ _))

namespace Annotation

/-- What can be written on a line so that it is read back: a key of key letters, and a
value, if there is one, that is not empty, stays on the line and is tight. -/
structure IsWritable (a : Annotation) : Prop where
  key_nonempty : a.key ≠ ""
  key_letters : ∀ c ∈ a.key.toList, Comment.IsKeyLetter c
  value_fits : ∀ v, a.value = some v → v ≠ "" ∧ '\n' ∉ v.toList ∧ IsTight v.toList

instance (a : Annotation) : Decidable a.IsWritable :=
  haveI : Decidable (∀ c ∈ a.key.toList, Comment.IsKeyLetter c) := List.decidableBAll _ _
  decidable_of_iff
    (a.key ≠ "" ∧ (∀ c ∈ a.key.toList, Comment.IsKeyLetter c) ∧
      ∀ v ∈ a.value, v ≠ "" ∧ '\n' ∉ v.toList ∧ IsTight v.toList)
    ⟨fun h => ⟨h.1, h.2.1, h.2.2⟩, fun h => ⟨h.key_nonempty, h.key_letters, h.value_fits⟩⟩

theorem IsWritable.toList_key_ne_nil {a : Annotation} (ha : a.IsWritable) :
    a.key.toList ≠ [] := by
  simpa using ha.key_nonempty

theorem IsWritable.toList_value_ne_nil {a : Annotation} (ha : a.IsWritable) {v : String}
    (hv : a.value = some v) : v.toList ≠ [] := by
  simpa using (ha.value_fits v hv).1

end Annotation

namespace Comment

/-- What is written after the key: nothing, or a blank and the value. -/
def afterKey (a : Annotation) : String := a.value.elim "" (" " ++ ·)

/-- An annotation without comment markers. -/
def bareText (a : Annotation) : String := "@" ++ a.key ++ afterKey a

/-- How a line of a comment is marked. -/
inductive LineStyle where
  | block
  | line
  | star
  deriving Repr, DecidableEq

namespace LineStyle

def opening : LineStyle → String
  | block => "/** "
  | line => "/// "
  | star => " * "

def closing : LineStyle → String
  | block => " */"
  | line => ""
  | star => ""

/-- A line that says an annotation. -/
def write (style : LineStyle) (a : Annotation) : String :=
  style.opening ++ bareText a ++ style.closing

/-- Where no closing marker is written, the value does not end in one. -/
def Fits (style : LineStyle) (a : Annotation) : Prop :=
  style = block ∨ ∀ v, a.value = some v → ¬ ['*', '/'] <:+ v.toList

instance (style : LineStyle) (a : Annotation) : Decidable (style.Fits a) :=
  inferInstanceAs (Decidable (_ ∨ ∀ v ∈ a.value, ¬ ['*', '/'] <:+ v.toList))

end LineStyle

/-- A comment that says annotations, one on each line. -/
def written (lines : List (LineStyle × Annotation)) : String :=
  "\n".intercalate (lines.map fun l => l.1.write l.2)

/-! ## §2. Keys. -/

theorem isKeyChar_iff {c : Char} : isKeyChar c = true ↔ IsKeyLetter c := by
  have halphanum : c.isAlphanum = ((c.isUpper || c.isLower) || c.isDigit) := rfl
  have hupper : c.isUpper = true ↔ 'A' ≤ c ∧ c ≤ 'Z' := decide_eq_true_iff
  have hlower : c.isLower = true ↔ 'a' ≤ c ∧ c ≤ 'z' :=
    Bool.and_eq_true_iff.trans (and_congr decide_eq_true_iff decide_eq_true_iff)
  have hdigit : c.isDigit = true ↔ '0' ≤ c ∧ c ≤ '9' :=
    Bool.and_eq_true_iff.trans (and_congr decide_eq_true_iff decide_eq_true_iff)
  simp only [isKeyChar, IsKeyLetter, halphanum, Bool.or_eq_true, hupper, hlower, hdigit,
    decide_eq_true_eq, or_assoc]

theorem IsKeyLetter.isBlank_eq_false {c : Char} (h : IsKeyLetter c) : isBlank c = false := by
  simp only [IsKeyLetter, Char.le_def, UInt32.le_iff_toNat_le] at h
  change (65 ≤ c.toNat ∧ c.toNat ≤ 90) ∨ (97 ≤ c.toNat ∧ c.toNat ≤ 122) ∨
    (48 ≤ c.toNat ∧ c.toNat ≤ 57) ∨ c = '_' ∨ c = '-' at h
  rcases h with upper | lower | digit | rfl | rfl
  · simp [isBlank, blankRanges, inRanges]; omega
  · simp [isBlank, blankRanges, inRanges]; omega
  · simp [isBlank, blankRanges, inRanges]; omega
  · decide
  · decide

theorem IsKeyLetter.ne_slash {c : Char} (h : IsKeyLetter c) : c ≠ '/' := by
  rintro rfl
  exact absurd (isKeyChar_iff.mpr h) (by decide)

/-! ## §3. What is written is read. -/

variable {a : Annotation}

/-- What follows the key may follow it, and is read as the value. -/
theorem value?_afterKey (ha : a.IsWritable) :
    value? (afterKey a).toList = some (a.value.elim [] String.toList) := by
  rcases hv : a.value with _ | v
  · simp [afterKey, hv, value?]
  · have hblank : isBlank ' ' = true := by decide
    simp [afterKey, hv, value?, hblank, trim_blank_cons,
      trim_eq_self (ha.value_fits v hv).2.2]

/-- No key character comes right after the key. -/
theorem key_ends_at_afterKey (a : Annotation) :
    (afterKey a).toList.takeWhile isKeyChar = [] ∧
      (afterKey a).toList.dropWhile isKeyChar = (afterKey a).toList := by
  have hspace : ¬ isKeyChar ' ' = true := by decide
  rcases hv : a.value with _ | v
  · simp [afterKey, hv]
  · simp [afterKey, hv, hspace]

theorem toList_bareText (a : Annotation) :
    (bareText a).toList = '@' :: (a.key.toList ++ (afterKey a).toList) := by
  simp [bareText]

/-- An annotation is read off its text. -/
theorem annotation?_bareText (ha : a.IsWritable) : annotation? (bareText a).toList = some a := by
  have hkey : ∀ c ∈ a.key.toList, isKeyChar c = true := fun c hc =>
    isKeyChar_iff.mpr (ha.key_letters c hc)
  obtain ⟨c, cs, hcs⟩ : ∃ c cs, a.key.toList = c :: cs :=
    List.exists_cons_of_ne_nil ha.toList_key_ne_nil
  have htake : (a.key.toList ++ (afterKey a).toList).takeWhile isKeyChar = c :: cs := by
    rw [List.takeWhile_append_of_pos hkey, (key_ends_at_afterKey a).1, List.append_nil, hcs]
  have hdrop : (a.key.toList ++ (afterKey a).toList).dropWhile isKeyChar = (afterKey a).toList := by
    rw [List.dropWhile_append_of_pos hkey, (key_ends_at_afterKey a).2]
  have hofList : String.ofList (c :: cs) = a.key := by rw [← hcs, String.ofList_toList]
  rw [toList_bareText]
  simp only [annotation?, htake, hdrop, value?_afterKey ha, hofList]
  obtain ⟨key, value⟩ := a
  rcases value with _ | v
  · rfl
  · have hvne : v ≠ "" := (ha.value_fits v rfl).1
    simp [hvne]

theorem isTight_bareText (ha : a.IsWritable) : IsTight (bareText a).toList := by
  have hat : isBlank '@' = false := by decide
  rcases hv : a.value with _ | v
  · have hkey : ∀ c ∈ a.key.toList.getLast?, isBlank c = false := fun c hc =>
      (ha.key_letters c (List.mem_of_getLast? hc)).isBlank_eq_false
    simpa [toList_bareText, afterKey, hv] using
      isTight_cons_append hat [] ha.toList_key_ne_nil hkey
  · have htight : IsTight v.toList := (ha.value_fits v hv).2.2
    simpa [toList_bareText, afterKey, hv] using
      isTight_cons_append hat (a.key.toList ++ [' ']) (ha.toList_value_ne_nil hv) htight.2

/-! ## §4. Only the markers are taken off. -/

theorem dropCloser_closed (cs : List Char) : dropCloser (cs ++ ['*', '/']) = cs := by
  have h := List.isSuffixOf?_eq_some_iff_append_eq.mpr (rfl : cs ++ ['*', '/'] = cs ++ ['*', '/'])
  rw [dropCloser, h, Option.getD_some]

theorem dropCloser_of_not_suffix {cs : List Char} (h : ¬ ['*', '/'] <:+ cs) :
    dropCloser cs = cs := by
  rcases hcs : ['*', '/'].isSuffixOf? cs with _ | rest
  · rw [dropCloser, hcs, Option.getD_none]
  · exact absurd ⟨rest, List.isSuffixOf?_eq_some_iff_append_eq.mp hcs⟩ h

/-- A closing marker at the end of a text is in its last part, or begins at the end of
the part before. -/
theorem closer_suffix_append {xs ys : List Char} (hys : ys ≠ [])
    (h : ['*', '/'] <:+ xs ++ ys) : ['*', '/'] <:+ ys ∨ xs.getLast? = some '*' := by
  rcases Nat.lt_or_ge ys.length 2 with hlt | hge
  · obtain ⟨d, rfl⟩ : ∃ d, ys = [d] :=
      List.length_eq_one_iff.mp (by have := List.length_pos_iff.mpr hys; omega)
    obtain ⟨front, hfront⟩ := h
    have hxs : front ++ ['*'] = xs := by
      refine (List.append_inj' (?_ : (front ++ ['*']) ++ ['/'] = xs ++ [d]) rfl).1
      simpa using hfront
    simp [← hxs]
  · exact .inl (List.suffix_of_suffix_length_le h (List.suffix_append xs ys) hge)

/-- No closing marker stands at the end of a line that has none of its own. -/
theorem not_closer_suffix_bareText (ha : a.IsWritable)
    (hvalue : ∀ v, a.value = some v → ¬ ['*', '/'] <:+ v.toList) (front : List Char) :
    ¬ ['*', '/'] <:+ front ++ (bareText a).toList := by
  intro h
  rcases hv : a.value with _ | v
  · have h' : ['*', '/'] <:+ (front ++ ['@']) ++ a.key.toList := by
      simpa [toList_bareText, afterKey, hv] using h
    rcases closer_suffix_append ha.toList_key_ne_nil h' with hkey | hlast
    · exact (ha.key_letters '/' (hkey.subset (by simp))).ne_slash rfl
    · simp at hlast
  · have h' : ['*', '/'] <:+ (front ++ '@' :: a.key.toList ++ [' ']) ++ v.toList := by
      simpa [toList_bareText, afterKey, hv] using h
    rcases closer_suffix_append (ha.toList_value_ne_nil hv) h' with hval | hlast
    · exact hvalue v hv hval
    · rw [List.getLast?_concat] at hlast
      simp at hlast

theorem trim_dropStar_bareText (ha : a.IsWritable) :
    trim (dropStar (bareText a).toList) = (bareText a).toList := by
  have hkeep : dropStar (bareText a).toList = (bareText a).toList := by
    rw [toList_bareText]
    rfl
  rw [hkeep, trim_eq_self (isTight_bareText ha)]

theorem trim_space_bareText (ha : a.IsWritable) :
    trim (' ' :: (bareText a).toList) = (bareText a).toList := by
  rw [trim_blank_cons (by decide), trim_eq_self (isTight_bareText ha)]

theorem content_block (ha : a.IsWritable) :
    content (LineStyle.block.write a).toList = (bareText a).toList := by
  have hslash : isBlank '/' = false := by decide
  have hwrite : (LineStyle.block.write a).toList =
      '/' :: ("** ".toList ++ (bareText a).toList ++ " *".toList ++ ['/']) := by
    simp [LineStyle.write, LineStyle.opening, LineStyle.closing]
  have hline : IsTight (LineStyle.block.write a).toList := by
    rw [hwrite]
    exact isTight_cons_append hslash _ (by simp) (by simp [hslash])
  have hopen : dropOpener (LineStyle.block.write a).toList =
      (' ' :: (bareText a).toList ++ [' ']) ++ ['*', '/'] := by
    rw [hwrite]
    simp [dropOpener, openers, List.isPrefixOf?]
  rw [content, trim_eq_self hline, hopen, dropCloser_closed, trim_append_blank (by decide),
    trim_space_bareText ha, trim_dropStar_bareText ha]

theorem content_line (ha : a.IsWritable)
    (hvalue : ∀ v, a.value = some v → ¬ ['*', '/'] <:+ v.toList) :
    content (LineStyle.line.write a).toList = (bareText a).toList := by
  have hne : (bareText a).toList ≠ [] := by simp [toList_bareText]
  have hwrite : (LineStyle.line.write a).toList = '/' :: ("// ".toList ++ (bareText a).toList) := by
    simp [LineStyle.write, LineStyle.opening, LineStyle.closing]
  have hline : IsTight (LineStyle.line.write a).toList := by
    rw [hwrite]
    exact isTight_cons_append (by decide) _ hne (isTight_bareText ha).2
  have hopen : dropOpener (LineStyle.line.write a).toList = [' '] ++ (bareText a).toList := by
    rw [hwrite]
    simp [dropOpener, openers, List.isPrefixOf?]
  rw [content, trim_eq_self hline, hopen,
    dropCloser_of_not_suffix (not_closer_suffix_bareText ha hvalue _), List.singleton_append,
    trim_space_bareText ha, trim_dropStar_bareText ha]

theorem content_star (ha : a.IsWritable)
    (hvalue : ∀ v, a.value = some v → ¬ ['*', '/'] <:+ v.toList) :
    content (LineStyle.star.write a).toList = (bareText a).toList := by
  have hne : (bareText a).toList ≠ [] := by simp [toList_bareText]
  have hwrite : (LineStyle.star.write a).toList = ' ' :: ("* ".toList ++ (bareText a).toList) := by
    simp [LineStyle.write, LineStyle.opening, LineStyle.closing]
  have hline : IsTight ("* ".toList ++ (bareText a).toList) :=
    isTight_cons_append (by decide) [' '] hne (isTight_bareText ha).2
  -- one star does not open a comment
  have hopen : dropOpener ("* ".toList ++ (bareText a).toList) =
      "* ".toList ++ (bareText a).toList := by
    simp [dropOpener, openers, List.isPrefixOf?]
  have hdecor : dropStar ("* ".toList ++ (bareText a).toList) = ' ' :: (bareText a).toList := rfl
  rw [content, hwrite, trim_blank_cons (by decide), trim_eq_self hline, hopen,
    dropCloser_of_not_suffix (not_closer_suffix_bareText ha hvalue _), trim_eq_self hline,
    hdecor, trim_space_bareText ha]

/-- Of a line that says an annotation, its text is left. -/
theorem content_write {style : LineStyle} (ha : a.IsWritable) (hfits : style.Fits a) :
    content (style.write a).toList = (bareText a).toList := by
  cases style with
  | block => exact content_block ha
  | line => exact content_line ha (hfits.resolve_left (by decide))
  | star => exact content_star ha (hfits.resolve_left (by decide))

/-! ## §5. Line by line. -/

theorem newline_not_mem_bareText (ha : a.IsWritable) : '\n' ∉ (bareText a).toList := by
  have hkey : '\n' ∉ a.key.toList := fun h =>
    absurd (ha.key_letters _ h).isBlank_eq_false (by decide)
  have hafter : '\n' ∉ (afterKey a).toList := by
    rcases hv : a.value with _ | v
    · simp [afterKey, hv]
    · simp [afterKey, hv, (ha.value_fits v hv).2.1]
  simp [toList_bareText, hkey, hafter]

theorem newline_not_mem_write (style : LineStyle) (ha : a.IsWritable) :
    '\n' ∉ (style.write a).toList := by
  cases style <;>
    simp [LineStyle.write, LineStyle.opening, LineStyle.closing, newline_not_mem_bareText ha]

theorem annotations_written {lines : List (LineStyle × Annotation)}
    (h : ∀ l ∈ lines, l.2.IsWritable ∧ l.1.Fits l.2) :
    annotations (written lines) = lines.map (·.2) := by
  by_cases hne : lines = []
  · subst hne
    rfl
  have hpieces : pieces '\n' (written lines).toList =
      lines.map fun l => (l.1.write l.2).toList := by
    have hapart : ∀ p ∈ lines.map (fun l => (l.1.write l.2).toList), '\n' ∉ p :=
      List.forall_mem_map.mpr fun l hl => newline_not_mem_write l.1 (h l hl).1
    have hsep : "\n".toList = ['\n'] := rfl
    have hmap : (lines.map fun l => l.1.write l.2).map String.toList =
        lines.map fun l => (l.1.write l.2).toList := by simp
    rw [pieces_eq_splitOn, written, String.toList_intercalate, hsep, hmap]
    exact List.splitOn_intercalate '\n' hapart (by simpa using hne)
  rw [annotations, hpieces, List.filterMap_map, ← List.filterMap_eq_map]
  refine List.filterMap_congr fun l hl => ?_
  obtain ⟨hl, hfits⟩ := h l hl
  rw [Function.comp_apply, Function.comp_apply, content_write hl hfits, annotation?_bareText hl]

/-- Ending the last line changes nothing. -/
theorem annotations_append_newline (comment : String) :
    annotations (comment ++ "\n") = annotations comment := by
  have hcut := annotations_newline comment ""
  have hempty : annotations "" = [] := rfl
  rwa [String.append_empty, hempty, List.append_nil] at hcut

/-! ## §6. What is read can be written. -/

theorem sublist_dropOpener (line : List Char) : (dropOpener line).Sublist line := by
  cases h : openers.findSome? fun o => o.isPrefixOf? line with
  | none => simp [dropOpener, h]
  | some rest =>
      obtain ⟨o, -, ho⟩ := List.exists_of_findSome?_eq_some h
      have hdrop : dropOpener line = rest := by rw [dropOpener, h, Option.getD_some]
      rw [hdrop, ← List.isPrefixOf?_eq_some_iff_append_eq.mp ho]
      exact List.sublist_append_right o rest

theorem sublist_dropCloser (line : List Char) : (dropCloser line).Sublist line := by
  cases h : ['*', '/'].isSuffixOf? line with
  | none => simp [dropCloser, h]
  | some rest =>
      have hdrop : dropCloser line = rest := by rw [dropCloser, h, Option.getD_some]
      rw [hdrop, ← List.isSuffixOf?_eq_some_iff_append_eq.mp h]
      exact List.sublist_append_left rest ['*', '/']

theorem sublist_dropStar (line : List Char) : (dropStar line).Sublist line := by
  rw [dropStar.eq_def]
  split
  · exact List.sublist_cons_self ..
  · exact List.Sublist.refl _

theorem sublist_content (line : List Char) : (content line).Sublist line :=
  (sublist_trim _).trans <| (sublist_dropStar _).trans <| (sublist_trim _).trans <|
    (sublist_dropCloser _).trans <| (sublist_dropOpener _).trans <| sublist_trim line

/-- A value is what is left of the text after a key, trimmed. -/
theorem eq_trim_of_value? {tail value : List Char} (h : value? tail = some value) :
    value = trim tail := by
  rcases tail with _ | ⟨c, cs⟩
  · exact (Option.some.inj h).symm
  · by_cases hc : isBlank c = true
    · simpa [value?, hc, eq_comm] using h
    · simp [value?, hc] at h

theorem isWritable_of_annotation? {line : List Char} (hline : '\n' ∉ line)
    (h : annotation? line = some a) : a.IsWritable := by
  rw [annotation?.eq_def] at h
  split at h
  next rest =>
    split at h
    · cases h
    · cases h
    next _ _ value hvalue hkey =>
      obtain rfl := Option.some.inj h
      have hvalue := eq_trim_of_value? hvalue
      have hvalueRest : value.Sublist rest := by
        rw [hvalue]
        exact (sublist_trim _).trans (List.dropWhile_sublist _)
      refine ⟨fun hempty => hkey (by simpa using hempty), ?_, ?_⟩
      · intro c hc
        rw [String.toList_ofList] at hc
        exact isKeyChar_iff.mp (List.mem_takeWhile_imp hc)
      · intro v hv
        obtain ⟨hne, rfl⟩ : value ≠ [] ∧ String.ofList value = v := by simpa using hv
        refine ⟨by simpa using hne, ?_, ?_⟩
        · rw [String.toList_ofList]
          exact fun hmem => hline (List.mem_cons_of_mem _ (hvalueRest.subset hmem))
        · rw [String.toList_ofList, hvalue]
          exact isTight_trim _
  · cases h

theorem isWritable_of_mem_annotations {comment : String} (h : a ∈ annotations comment) :
    a.IsWritable := by
  obtain ⟨line, hline, hread⟩ := List.mem_filterMap.mp h
  exact isWritable_of_annotation?
    (fun hmem => not_mem_of_mem_pieces hline ((sublist_content line).subset hmem)) hread

/-! ## §7. THE SURVIVAL THEOREM. -/

/-- Annotations that can be written, each on a line in a style that fits it, are read
back as they were, whether or not the last line is ended.  What is read from any
comment can be written, and reading it back from block lines gives the same. -/
theorem annotations_survive :
    (∀ lines : List (LineStyle × Annotation),
      (∀ l ∈ lines, l.2.IsWritable ∧ l.1.Fits l.2) →
      annotations (written lines) = lines.map (·.2) ∧
      annotations (written lines ++ "\n") = lines.map (·.2)) ∧
    ∀ comment : String,
      (∀ a ∈ annotations comment, a.IsWritable) ∧
      annotations (written ((annotations comment).map (LineStyle.block, ·))) =
        annotations comment := by
  refine ⟨fun lines h => ⟨annotations_written h, ?_⟩, fun comment => ⟨?_, ?_⟩⟩
  · rw [annotations_append_newline, annotations_written h]
  · exact fun a ha => isWritable_of_mem_annotations ha
  · have hlines : ∀ l ∈ (annotations comment).map (LineStyle.block, ·),
        l.2.IsWritable ∧ l.1.Fits l.2 :=
      List.forall_mem_map.mpr fun a ha => ⟨isWritable_of_mem_annotations ha, .inl rfl⟩
    rw [annotations_written hlines, List.map_map]
    exact List.map_id' _

theorem annotations_survive_of_markers :
    annotations "/** @ensures *p == '/' */ */\n/// @note /// @a\r*/ b*\n * @in-out_2" =
      [⟨"ensures", some "*p == '/' */"⟩, ⟨"note", some "/// @a\r*/ b*"⟩, ⟨"in-out_2", none⟩] :=
  (annotations_survive.1
    [(.block, ⟨"ensures", some "*p == '/' */"⟩), (.line, ⟨"note", some "/// @a\r*/ b*"⟩),
      (.star, ⟨"in-out_2", none⟩)]
    (by decide)).1

/-- A line style loses the end of a value that does not fit it. -/
example : ¬ LineStyle.line.Fits ⟨"ensures", some "a*/"⟩ ∧
    annotations (written [(.line, ⟨"ensures", some "a*/"⟩)]) = [⟨"ensures", some "a"⟩] := by
  decide

end Comment

end DeclExport
