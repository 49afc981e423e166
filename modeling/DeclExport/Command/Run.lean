/-
  DeclExport.Command.Run
  ────────────────────────────────
  **THE COMMAND.**

  A run reads a unit, exports it into memory and only then delivers, so a run
  that fails delivers nothing.  Its failures come in this order:

      the command line, the log directives, the input, the unit,
      the declaration or the options, the export, the directory, the output

  That order is written down once, for every machine that can be asked to read
  and to write (`Host`): the machine that a program runs on is one, and a
  workspace is another.
-/
import DeclExport.Command.Arguments
import DeclExport.Command.Directive
import DeclExport.Command.Workspace
import DeclExport.Export.Run
import DeclExport.Source.Load
import DeclExport.Text.Printable

namespace DeclExport.Command

/-! ## §1. Why a command fails. -/

/-- The failure that ended a run, with the words of the user that it is about. -/
inductive Fatal where
  | directive (text : String)
  | input (path : String) (fault : IoFault)
  | stdin (fault : IoFault)
  | stdout (fault : IoFault)
  | unit (failure : Failure)
  | shape (name : String)
  | reduction (name : String)
  | «export» (failure : Failure)
  | directory (path : String) (fault : IoFault)
  | output (path : String) (fault : IoFault)
  deriving Repr, DecidableEq

/-- The wording of a fatal failure, given that of decoding faults.  The fault of
a text that cannot be decoded is told twice, as a part and as the cause. -/
def Fatal.messageWith (wording : Json.Fault → String) : Fatal → String
  | .directive text => "invalid log directive " ++ text
  | .input path fault => "failed to read input file " ++ path ++ ": " ++ fault.message
  | .stdin fault => fault.message
  | .stdout fault => fault.message
  | .unit (.decode fault) =>
      "invalid translation unit: " ++ (Failure.decode fault).messageWith wording
        ++ ": " ++ wording fault
  | .unit failure => "invalid translation unit: " ++ failure.messageWith wording
  | .shape name => "unsupported document shape: " ++ name
  | .reduction name => "unsupported reduction: " ++ name
  | .export failure => failure.messageWith wording
  | .directory path fault =>
      "failed to create directory " ++ Text.display path ++ ": " ++ fault.message
  | .output path fault => "failed to write output file " ++ path ++ ": " ++ fault.message

/-- The report of a fatal failure. -/
def Fatal.reportWith (wording : Json.Fault → String) (fatal : Fatal) : String :=
  "[FATAL ERROR] " ++ fatal.messageWith wording ++ "\n"

/-! ## §2. From arguments to documents. -/

namespace Arguments

/-- What comes of the log directives: those of the environment are read first,
and only that of the command line can be refused. -/
def logging (a : Arguments) (environment : Option String) : Directive.Outcome :=
  match Directive.readAll (environment.getD "") with
  | .accepted => (a.logLevel.map Directive.read).getD .accepted
  | outcome => outcome

/-- The shape that a name stands for. -/
def shape? : String → Except Fatal DocumentShape
  | "named" => .ok .namedPairs
  | "decls" => .ok .terms
  | name => .error (.shape name)

/-- The reduction that a name stands for. -/
def reduction? : String → Except Fatal Reduction
  | "min" => .ok .min
  | "max" => .ok .max
  | name => .error (.reduction name)

/-- The options of an export. -/
def options (a : Arguments) : Except Fatal ExportOptions :=
  match shape? (a.shape.getD "named") with
  | .error fatal => .error fatal
  | .ok shape =>
      match reduction? (a.reduction.getD "min") with
      | .error fatal => .error fatal
      | .ok reduction =>
          .ok {
            shape, reduction
            exportKey := if a.all then none else some (a.exportKey.getD "export")
            systemRoots := a.systemRoots }

/-- What was delivered, if nothing failed. -/
def delivered (d : Delivery) : Except Fatal String :=
  match d.failure with
  | none => .ok d.sink.text
  | some failure => .error (.export failure)

/-- The document of a unit: of one declaration if one is named, else of the
whole unit. -/
def exported (a : Arguments) (u : SourceUnit) : Except Fatal String :=
  match a.decl with
  | some name =>
      match u.findDecl? name with
      | none => .error (.export (.unknownDecl name))
      | some d => delivered (d.exportTerm u renderTerm .unbounded)
  | none =>
      match a.options with
      | .error fatal => .error fatal
      | .ok options => delivered (u.exportDocument options renderTerm .unbounded)

/-- The document of the text of a unit. -/
def document (a : Arguments) (text : String) : Except Fatal String :=
  match SourceUnit.ofText text with
  | .error failure => .error (.unit failure)
  | .ok u => a.exported u

end Arguments

/-! ## §3. The order of a run. -/

/-- What a run asks of the machine that it is on.  A request that cannot be met
is answered with a fault. -/
class Host (m : Type → Type) where
  /-- All that standard input holds. -/
  readStdin : m (Except IoFault ByteArray)
  readFile (path : String) : m (Except IoFault ByteArray)
  /-- Make a directory in one that is there. -/
  makeDirectory (path : String) : m (Except IoFault Unit)
  isDirectory (path : String) : m Bool
  /-- Write a text to a file, which is made or emptied first. -/
  writeFile (path text : String) : m (Except IoFault Unit)
  /-- Write a text to standard output. -/
  print (text : String) : m (Except IoFault Unit)
  /-- Write a text to standard error. -/
  complain (text : String) : m Unit

/-- How a run ends: with a status, and with the failure that it has reported. -/
structure Ending where
  status : Nat
  fatal : Option Fatal

section Order

variable {m : Type → Type} [Monad m] [Host m]

/-- The text that a run reads: of a file, or of standard input. -/
def source (a : Arguments) : m (Except Fatal String) :=
  match a.input with
  | none => do
      let bytes ← Host.readStdin
      return (bytes.bind textOfBytes).mapError .stdin
  | some path => do
      let bytes ← Host.readFile path
      return (bytes.bind textOfBytes).mapError (.input path)

/-- The document of a run. -/
def produce (a : Arguments) : m (Except Fatal String) := do
  let text ← source a
  return text.bind a.document

/-- A directory that could not be made may be there already. -/
def unlessThere (path : String) (made : Except IoFault Unit) : m (Except IoFault Unit) :=
  match made with
  | .ok () => return .ok ()
  | .error fault => do
      if ← Host.isDirectory path then return .ok () else return .error fault

/-- Make the directory that a way leads to, and those on the way, the names being
given from the last to the first.  The longest path is tried first, and a shorter
one only where a name is missing; so a file in the way is no directory at first,
and is something that exists once a directory has been made.  Names that lead
nowhere have no directory of their own. -/
def makeWay : List String → m (Except IoFault Unit)
  | [] => return .ok ()
  | name :: before =>
      if isIdle name && !before.isEmpty then makeWay before
      else do
        let path := joinPieces (name :: before).reverse
        match ← Host.makeDirectory path with
        | .error .notFound =>
            match ← makeWay before with
            | .error fault => return .error fault
            | .ok () => unlessThere path (← Host.makeDirectory path)
        | made => unlessThere path made

/-- Make a directory and all that it is in; the empty path needs none. -/
def makeDirectories (path : String) : m (Except IoFault Unit) :=
  if path.isEmpty then return .ok () else makeWay (pathPieces path).reverse

/-- Make the directory that a path is in. -/
def makeParent (path : String) : m (Except Fatal Unit) :=
  match parentPath? path with
  | none => return .ok ()
  | some parent => do
      let made ← makeDirectories parent
      return made.mapError (.directory parent)

/-- Write a document to a file, the directory for it made first, or to standard
output. -/
def deliver (output : Option String) (document : String) : m (Except Fatal Unit) :=
  match output with
  | none => do
      let printed ← Host.print document
      return printed.mapError .stdout
  | some path => do
      match ← makeParent path with
      | .error fatal => return .error fatal
      | .ok () => do
          let written ← Host.writeFile path document
          return written.mapError (.output path)

/-- A run with the given arguments, after the log directives are read. -/
def execute (a : Arguments) : m (Except Fatal Unit) := do
  match ← produce a with
  | .error fatal => return .error fatal
  | .ok document => deliver a.output document

/-- End a run with a failure. -/
def report (fatal : Fatal) : m Ending := do
  Host.complain (fatal.reportWith Json.Fault.message)
  return ⟨1, some fatal⟩

/-- A run with the given command line, and the log directives that the
environment has.  A directive that is broken breaks the program off, and what is
said then is left out. -/
def perform (environment : Option String) (args : List String) : m Ending :=
  match parse args with
  | .help => do
      let _ ← Host.print helpText
      return ⟨0, none⟩
  | .version => do
      let _ ← Host.print versionText
      return ⟨0, none⟩
  | .misuse => do
      Host.complain usageText
      return ⟨2, none⟩
  | .run a =>
      match a.logging environment with
      | .broken => return ⟨101, none⟩
      | .refused => report (.directive (a.logLevel.getD ""))
      | .accepted => do
          match ← execute a with
          | .error fatal => report fatal
          | .ok () => return ⟨0, none⟩

end Order

/-! ## §4. Runs in a workspace. -/

/-- What a change of the workspace answers with: nothing, or the fault that kept
it from being made. -/
def Workspace.attempt (change : Workspace → Except IoFault Workspace) :
    StateM Workspace (Except IoFault Unit) := do
  match change (← get) with
  | .error fault => return .error fault
  | .ok w => do
      set w
      return .ok ()

instance : Host (StateM Workspace) where
  readStdin := return .ok (← get).stdin
  readFile path := return (← get).read path
  makeDirectory path := Workspace.attempt (·.makeDirectory path)
  isDirectory path := return (← get).isDirectory path
  writeFile path text := Workspace.attempt (·.write path text)
  print text := Workspace.attempt fun w => .ok (w.take .stdout text)
  complain text := modify (·.take .stderr text)

/-- What a workspace answers to an operation, and what it is after that. -/
def Workspace.ask {α : Type} (w : Workspace) (operation : StateM Workspace α) : α × Workspace :=
  operation.run w

/-- What a run ends with. -/
structure Result extends Ending where
  /-- The files and streams after the run. -/
  workspace : Workspace

/-- A run in a workspace. -/
def run (w : Workspace) (environment : Option String) (args : List String) : Result :=
  match w.ask (perform environment args) with
  | (ending, workspace) => ⟨ending, workspace⟩

end DeclExport.Command
