/-
  DeclExport.Command.Arguments
  ────────────────────────────────
  **COMMAND LINES.**

  Options have long names, two of them short names as well.  A value stands in
  the same argument after `=` (after a short name also without it), or is the
  next argument unless that looks like an option.  Only the system root may be
  given more than once; positional arguments are not taken.

  Arguments are read from left to right, so of a help request and a misuse the
  one that comes first wins.
-/

namespace DeclExport.Command

/-! ## §1. What a command line says. -/

/-- What the options of a run say, as it stands on the command line. -/
structure Arguments where
  input : Option String := none
  output : Option String := none
  shape : Option String := none
  reduction : Option String := none
  exportKey : Option String := none
  /-- Drop the annotation gate. -/
  all : Bool := false
  systemRoots : List String := []
  decl : Option String := none
  logLevel : Option String := none
  deriving Repr, DecidableEq

/-- What is asked for. -/
inductive Request where
  | run (arguments : Arguments)
  | help
  | version
  /-- The command line is none of the above. -/
  | misuse
  deriving Repr, DecidableEq

/-- The options that take a value. -/
inductive ValueOption where
  | input | output | shape | reduction | exportKey | systemRoot | decl | logLevel
  deriving Repr, DecidableEq

namespace ValueOption

/-- The option with a long name; prefixes of names are not names. -/
def ofLong? : String → Option ValueOption
  | "input" => some .input
  | "output" => some .output
  | "shape" => some .shape
  | "reduction" => some .reduction
  | "export-key" => some .exportKey
  | "system-root" => some .systemRoot
  | "decl" => some .decl
  | "log-level" => some .logLevel
  | _ => none

/-- The option with a one-letter name. -/
def ofShort? : Char → Option ValueOption
  | 'i' => some .input
  | 'o' => some .output
  | _ => none

/-- A value for a place that is empty. -/
def once (place : Option String) (value : String) : Option (Option String) :=
  match place with
  | none => some (some value)
  | some _ => none

/-- The arguments with one more option, unless it is repeated in vain. -/
def set (o : ValueOption) (a : Arguments) (value : String) : Option Arguments :=
  match o with
  | .input => (once a.input value).map fun v => { a with input := v }
  | .output => (once a.output value).map fun v => { a with output := v }
  | .shape => (once a.shape value).map fun v => { a with shape := v }
  | .reduction => (once a.reduction value).map fun v => { a with reduction := v }
  | .exportKey => (once a.exportKey value).map fun v => { a with exportKey := v }
  | .systemRoot => some { a with systemRoots := a.systemRoots ++ [value] }
  | .decl => (once a.decl value).map fun v => { a with decl := v }
  | .logLevel => (once a.logLevel value).map fun v => { a with logLevel := v }

end ValueOption

/-! ## §2. Single arguments. -/

/-- What a single argument is. -/
inductive Word where
  /-- The word `--`: only positional arguments may follow. -/
  | escape
  | flag (name : String)
  /-- An option, with its value if that stands in the same argument. -/
  | option (option : ValueOption) (value : Option String)
  | unknown
  deriving Repr, DecidableEq

/-- The flags by their long names. -/
def flags : List String := ["all", "help", "version"]

/-- A long name, and what stands after the first `=`. -/
def splitValue (cs : List Char) : String × Option String :=
  let name := String.ofList (cs.takeWhile (· ≠ '='))
  match cs.dropWhile (· ≠ '=') with
  | [] => (name, none)
  | _ :: value => (name, some (String.ofList value))

/-- The value that stands right after a short name. -/
def attached : List Char → Option String
  | [] => none
  | '=' :: cs => some (String.ofList cs)
  | cs => some (String.ofList cs)

/-- What a single argument is. -/
def Word.ofArgument (arg : String) : Word :=
  match arg.toList with
  | ['-', '-'] => .escape
  | '-' :: '-' :: cs =>
      match splitValue cs with
      | (name, value) =>
          match ValueOption.ofLong? name, value with
          | some o, value => .option o value
          | none, none => if flags.contains name then .flag name else .unknown
          | none, some _ => .unknown
  | '-' :: 'h' :: _ => .flag "help"
  | '-' :: 'V' :: _ => .flag "version"
  | '-' :: c :: cs =>
      match ValueOption.ofShort? c with
      | some o => .option o (attached cs)
      | none => .unknown
  | _ => .unknown

/-- Whether an argument cannot be the value of the option before it. -/
def looksLikeOption (arg : String) : Bool :=
  match arg.toList with
  | '-' :: _ :: _ => true
  | _ => false

/-! ## §3. Command lines. -/

/-- The request of a command line, after the arguments `a`. -/
def parseFrom (a : Arguments) : List String → Request
  | [] => .run a
  | arg :: rest =>
      match Word.ofArgument arg with
      | .escape => if rest.isEmpty then .run a else .misuse
      | .flag "help" => .help
      | .flag "version" => .version
      | .flag _ => if a.all then .misuse else parseFrom { a with all := true } rest
      | .option o (some value) =>
          match o.set a value with
          | some a => parseFrom a rest
          | none => .misuse
      | .option o none =>
          match rest with
          | [] => .misuse
          | value :: rest =>
              if looksLikeOption value then .misuse
              else match o.set a value with
                | some a => parseFrom a rest
                | none => .misuse
      | .unknown => .misuse

/-- The request of a command line. -/
def parse (args : List String) : Request := parseFrom {} args

/-- The text that answers a help request. -/
def helpText : String :=
  "\n".intercalate [
    "Translate a serialized C++ translation unit into a Coq module",
    "",
    "Usage: cpp2v [OPTIONS]",
    "",
    "Options:",
    "  -i, --input <INPUT>          Translation unit JSON (defaults to stdin)",
    "  -o, --output <OUTPUT>        Output file (defaults to stdout)",
    "      --shape <SHAPE>          Document shape: named, decls [default: named]",
    "      --reduction <MODE>       How export gates are combined: min (all must pass), "
      ++ "max (any may pass) [default: min]",
    "      --export-key <KEY>       Annotation that marks a declaration for export [default: export]",
    "      --all                    Export every declaration outside system headers",
    "      --system-root <DIR>      Treat headers under DIR as system headers (repeatable)",
    "      --decl <QUALIFIED_NAME>  Print the term of a single declaration instead of a module",
    "      --log-level <DIRECTIVE>  Log filter directive, e.g. cpp2v_core=debug",
    "  -h, --help                   Print help",
    "  -V, --version                Print version",
    ""]

/-- The text that answers a version request. -/
def versionText : String := "cpp2v-cli 0.1.0\n"

/-- The report of a misuse.  Which argument is meant is not said. -/
def usageText : String :=
  "error: unexpected or incomplete argument\n\nUsage: cpp2v [OPTIONS]\n"

end DeclExport.Command
