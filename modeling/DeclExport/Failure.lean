/-
  DeclExport.Failure
  ────────────────────────────────
  **WHY A RUN FAILS.**

  Every failure is fatal: whoever meets one gives up the run and drops what was
  written.  Failures are causes; their wording is `message`.
-/
import DeclExport.Json.Schema
import DeclExport.Source.Validity

namespace DeclExport

/-- A failure of the surroundings: files, streams and sinks. -/
inductive IoFault where
  | notFound
  | exists
  | notDirectory
  | isDirectory
  | nameTooLong
  /-- The device has no room left. -/
  | noSpace
  /-- There is nothing behind the name of a device. -/
  | noDevice
  /-- What is read does not end. -/
  | outOfMemory
  | notUnicode
  /-- The sink has no room left. -/
  | full
  /-- The sink could not deliver what it holds. -/
  | flush
  /-- Anything else, in the words of the system. -/
  | other (message : String)
  deriving Repr, DecidableEq

/-- The wording of a failure of the surroundings. -/
def IoFault.message : IoFault → String
  | .notFound => "No such file or directory (os error 2)"
  | .exists => "File exists (os error 17)"
  | .notDirectory => "Not a directory (os error 20)"
  | .isDirectory => "Is a directory (os error 21)"
  | .nameTooLong => "File name too long (os error 36)"
  | .noSpace => "No space left on device (os error 28)"
  | .noDevice => "No such device or address (os error 6)"
  | .outOfMemory => "out of memory"
  | .notUnicode => "stream did not contain valid UTF-8"
  | .full => "sink is full"
  | .flush => "flush failed"
  | .other message => message

/-- Indentation scopes that do not match. -/
inductive ScopeFault where
  /-- A scope is closed that was never opened. -/
  | unopened
  /-- A nested layout ends at another depth than it began. -/
  | leaked (depth expected : Nat)
  /-- Scopes are open at the end of the document. -/
  | unclosed (count : Nat)
  deriving Repr, DecidableEq

/-- The wording of a mismatch of scopes. -/
def ScopeFault.message : ScopeFault → String
  | .unopened => "close-scope without a matching open-scope"
  | .leaked depth expected =>
      "nested scope left at depth " ++ toString depth ++ " instead of " ++ toString expected
  | .unclosed count => toString count ++ " scope(s) still open at end of document"

/-- The failures of a run. -/
inductive Failure where
  | io (fault : IoFault)
  /-- The text is not the text of a value of the format. -/
  | decode (fault : Json.Fault)
  | invalid (fault : UnitFault)
  | unbalanced (fault : ScopeFault)
  /-- Two declarations are rendered under one name. -/
  | collision (name : String) (first second : DeclId)
  | unrenderable (decl : DeclId) (reason : String)
  | unknownDecl (name : String)
  deriving Repr, DecidableEq

/-- The wording of a failure, given that of decoding faults. -/
def Failure.messageWith (wording : Json.Fault → String) : Failure → String
  | .io fault => "failed to read translation unit: " ++ fault.message
  | .decode fault => "failed to decode translation unit: " ++ wording fault
  | .invalid fault => "malformed translation unit: " ++ fault.message
  | .unbalanced fault => "unbalanced layout: " ++ fault.message
  | .collision name first second =>
      "name collision: `" ++ name ++ "` is produced by both declaration " ++ first.text
        ++ " and " ++ second.text
  | .unrenderable decl reason => "cannot render declaration " ++ decl.text ++ ": " ++ reason
  | .unknownDecl name => "declaration `" ++ name ++ "` was not found"

/-- The wording of a failure. -/
def Failure.message (failure : Failure) : String := failure.messageWith Json.Fault.message

end DeclExport
