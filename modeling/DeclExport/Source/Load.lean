/-
  DeclExport.Source.Load
  ────────────────────────────────
  **LOADING A SOURCE UNIT.**

  Three gates in a row, and the first that refuses gives the failure: the bytes
  must be UTF-8, the text must be in the format, the unit must be valid.
-/
import DeclExport.Failure
import DeclExport.Source.Format.Codec

namespace DeclExport

/-- The text of bytes that are UTF-8. -/
def textOfBytes (bytes : ByteArray) : Except IoFault String :=
  match String.fromUTF8? bytes with
  | none => .error .notUnicode
  | some text => .ok text

namespace SourceUnit

/-- The unit of a text, not checked for integrity. -/
def decode (text : String) : Except Failure SourceUnit :=
  (Format.units.read text).mapError .decode

/-- The unit itself, if its references are intact. -/
def checked (u : SourceUnit) : Except Failure SourceUnit :=
  match u.fault? with
  | some fault => .error (.invalid fault)
  | none => .ok u

/-- The unit of a text. -/
def ofText (text : String) : Except Failure SourceUnit :=
  match decode text with
  | .error e => .error e
  | .ok u => u.checked

/-- The unit in the bytes of a file. -/
def ofBytes (bytes : ByteArray) : Except Failure SourceUnit :=
  match textOfBytes bytes with
  | .error fault => .error (.io fault)
  | .ok text => ofText text

end SourceUnit

end DeclExport
