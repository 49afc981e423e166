/-
  DeclExport.Proofs.Source.Unknown
  ────────────────────────────────
  **UNKNOWN MEMBERS IN THE TEXT OF A UNIT.**

  The records of the format (units, files, positions, declarations, parameters and
  fields) take no member that they do not know.  The cases of its unions (kinds,
  statements, expressions and types) take any, and nothing is left of it: with the
  name of a function's body misspelt, the function is only announced.
-/
import DeclExport.Proofs.Json.Reading
import DeclExport.Proofs.Json.Unknown
import DeclExport.Source.Load

namespace DeclExport

open Json Format

namespace SourceUnit

/-- **Unknown members**, at any depth of the text: in a record the text is not decoded,
in a case the outcome is the one without them. -/
theorem ofText_unknownMembers (text : String) :
    (HasUnknownMember format ({ shape := .named .unit }, (Json.read text.toList).1) →
        ∃ fault, ofText text = .error (.decode fault))
      ∧ ∀ text' : String,
          Json.read text'.toList
              = ((Json.read text.toList).1.known format { shape := .named .unit },
                (Json.read text.toList).2) →
            ofText text' = ofText text := by
  constructor
  · intro h
    obtain ⟨fault, hfault⟩ := exists_fault_of_unknownMember h
    refine ⟨fault, ?_⟩
    have hread : units.read text = .error fault := by
      rw [Codec.read]
      simp only [units, hfault]
    rw [ofText, SourceUnit.decode, hread]
    rfl
  · intro text' h
    have hread : units.read text' = units.read text := by
      rw [Codec.read, Codec.read]
      simp only [units, decode_eq_of_known h]
    rw [ofText, ofText, SourceUnit.decode, SourceUnit.decode, hread]

/-- A unit with one function, with empty lists added as members of the declaration and
of what its kind contains. -/
def functionTree (ofDecl ofKind : List String) : Tree :=
  .ofMembers [("files", .ofItems []), ("decls", .ofItems [.ofMembers ([("id", .int 1),
    ("name", .string "f"), ("kind", .ofMembers [("function", .ofMembers ([
      ("ret", .string "void"), ("params", .ofItems [])]
        ++ ofKind.map fun name => (name, .ofItems [])))])]
    ++ ofDecl.map fun name => (name, .ofItems []))])]

theorem read_functionTree (ofDecl ofKind : List String) :
    Json.read (String.ofList (functionTree ofDecl ofKind).text).toList
      = (functionTree ofDecl ofKind, false) := by
  have hspelt : (functionTree ofDecl ofKind).IsSpelt := by
    simp [functionTree, Tree.isSpelt_ofMembers, Tree.isSpelt_ofItems, or_imp, forall_and,
      Tree.string, Tree.int, Tree.IsSpelt, Scalar.IsSpelt, UInt64.size]
  rw [String.toList_ofList, read_text hspelt]

/-- A declaration with its comment misspelt is not decoded, a function with its body
misspelt is decoded as one that is only announced. -/
theorem ofText_unknownMembers_of_misspelt :
    (∃ fault, ofText (String.ofList (functionTree ["commnet"] []).text)
        = .error (.decode fault))
      ∧ ofText (String.ofList (functionTree [] ["bdoy"]).text)
        = .ok ⟨[], [⟨⟨1⟩, "f", [], none, none, .function .void [] none⟩]⟩ := by
  constructor
  · refine (ofText_unknownMembers _).1 ?_
    rw [read_functionTree]
    -- from the unit to its declarations, and to the first of them
    refine .part (.recordMember rfl rfl (.tail _ (.head _)) rfl) ?_
    refine .part (.item rfl (.head _)) ?_
    exact .here rfl rfl (.tail _ (.tail _ (.tail _ (.head _)))) (by decide)
  · have hknown : Json.read (String.ofList (functionTree [] []).text).toList
        = ((Json.read (String.ofList (functionTree [] ["bdoy"]).text).toList).1.known format
            { shape := .named .unit },
          (Json.read (String.ofList (functionTree [] ["bdoy"]).text).toList).2) := by
      rw [read_functionTree, read_functionTree]
      rfl
    rw [← (ofText_unknownMembers _).2 _ hknown, ofText, SourceUnit.decode, Codec.read,
      Json.decode, units, read_functionTree]
    rfl

end SourceUnit

end DeclExport
