/-
  DeclExport.Main
  ────────────────────────────────
  **THE COMMAND LINE PROGRAM.**

  The outer layer: how the machine that the program runs on reads and writes.
  What it is asked to, and in which order, is for `Command` to say.
-/
import DeclExport.Command.Run

namespace DeclExport.Main

open DeclExport.Command

/-- The number of an error of the system, which may come negated. -/
def errorNumber (code : UInt32) : UInt32 := min code (0 - code)

/-- The fault behind an error of the system. -/
def fault : IO.Error → IoFault
  | .noFileOrDirectory _ _ _ => .notFound
  | .alreadyExists _ _ _ => .exists
  | .inappropriateType _ code _ => if errorNumber code = 21 then .isDirectory else .notDirectory
  | .invalidArgument _ code message =>
      if errorNumber code = 36 then .nameTooLong else .other message
  | .resourceExhausted _ code message =>
      if errorNumber code = 28 then .noSpace else .other message
  | .noSuchThing _ code message =>
      if errorNumber code = 6 then .noDevice else .other message
  | .permissionDenied _ _ _ => .other "Permission denied (os error 13)"
  | e => .other (toString e)

/-- Run an action on files, and tell which fault stopped it. -/
def attempt {α : Type} (action : IO α) : IO (Except IoFault α) := do
  try
    return .ok (← action)
  catch e =>
    return .error (fault e)

/-- The machine itself. -/
instance : Host IO where
  readStdin := attempt do (← IO.getStdin).readBinToEnd
  readFile path := attempt (IO.FS.readBinFile path)
  makeDirectory path := attempt (IO.FS.createDir path)
  isDirectory path := do
    -- only a directory has something called `.`
    match ← attempt (IO.FS.realPath (path ++ "/.")) with
    | .ok _ => return true
    | .error _ => return false
  writeFile path text := attempt <| IO.FS.withFile path .write fun file => do
    file.putStr text
    file.flush
  print text := attempt do
    let stdout ← IO.getStdout
    stdout.putStr text
    stdout.flush
  complain := IO.eprint

/-- The variable of the environment that holds log directives. -/
def logVariable : String := "CPP2V_LOG"

end DeclExport.Main

/-- The program. -/
def main (args : List String) : IO UInt32 := do
  let environment ← IO.getEnv DeclExport.Main.logVariable
  let ending ← DeclExport.Command.perform environment args
  return ending.status.toUInt32
