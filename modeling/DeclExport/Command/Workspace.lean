/-
  DeclExport.Command.Workspace
  ────────────────────────────────
  **THE FILES AND STREAMS AROUND A RUN.**

  A workspace is a directory with files and directories below it and around it,
  each under the names on the way to it.  Paths are resolved name by name, as
  the file system does: every name but the last must lead to a directory.

  Little is known of what is outside of the working directory: the directories
  that it is in, the root, what every system has, and what a run writes.  Among
  what every system has are names for the streams of the run itself.

  What a run writes to a device is kept, also where the device itself keeps
  nothing.  Standard error takes the report of a failure, and the document if
  that is sent there; the lines of the log are left out.
-/
import DeclExport.Command.Place

namespace DeclExport.Command

/-! ## §1. Workspaces. -/

/-- What is written and read like a file, but is none. -/
inductive Device where
  /-- It holds nothing, and takes everything. -/
  | null
  /-- It never ends, and takes everything; so do the two that follow. -/
  | zero
  | random
  | urandom
  /-- It never ends, and has no room. -/
  | full
  /-- It is there only for a user at a terminal. -/
  | terminal
  | stdin
  | stdout
  | stderr
  deriving Repr, DecidableEq

/-- What is at a place. -/
inductive Node where
  | file (bytes : ByteArray)
  | device (device : Device)
  | directory
  | nothing

/-- A state of the files and streams.  Directories that only lead to something
that is listed need not be listed. -/
structure Workspace where
  files : List (Place × ByteArray)
  directories : List Place
  devices : List (Place × Device)
  /-- Names for other places; none of those is such a name itself. -/
  links : List (Place × Place)
  /-- Directories in which nothing can be made. -/
  closed : List Place
  /-- What standard input holds. -/
  stdin : ByteArray
  /-- What was written to every device. -/
  taken : Device → String

namespace Workspace

/-- What was written to standard output. -/
def stdout (w : Workspace) : String := w.taken .stdout

/-- What was written to standard error, without the lines of the log. -/
def stderr (w : Workspace) : String := w.taken .stderr

/-! ## §2. What every system has. -/

/-- Directories that are always there. -/
def standardDirectories : List String :=
  ["/bin", "/boot", "/dev/pts", "/dev/shm", "/etc", "/home", "/lib", "/media", "/mnt", "/opt",
    "/root", "/run", "/sbin", "/srv", "/sys", "/tmp", "/usr/bin", "/usr/include", "/usr/lib",
    "/usr/local", "/usr/share", "/var/log", "/var/tmp"]

/-- Devices that are always there. -/
def standardDevices : List (String × Device) :=
  [("/dev/null", .null), ("/dev/zero", .zero), ("/dev/random", .random),
    ("/dev/urandom", .urandom), ("/dev/full", .full), ("/dev/tty", .terminal),
    ("/proc/self/fd/0", .stdin), ("/proc/self/fd/1", .stdout), ("/proc/self/fd/2", .stderr)]

/-- Names for other places that are always there. -/
def standardLinks : List (String × Place) :=
  [("/dev/fd", .ofPath "/proc/self/fd"), ("/dev/stdin", .ofPath "/proc/self/fd/0"),
    ("/dev/stdout", .ofPath "/proc/self/fd/1"), ("/dev/stderr", .ofPath "/proc/self/fd/2"),
    ("/proc/self/cwd", .here), ("/proc/self/root", .root)]

/-- A working directory that holds files at the given paths, and standard input. -/
def ofFiles (files : List (String × ByteArray)) (stdin : ByteArray) : Workspace where
  files := files.map fun f => (.ofPath f.1, f.2)
  directories := standardDirectories.map .ofPath
  devices := standardDevices.map fun d => (.ofPath d.1, d.2)
  links := standardLinks.map fun l => (.ofPath l.1, l.2)
  closed := [.ofPath "/proc"]
  stdin := stdin
  taken := fun _ => ""

/-! ## §3. Ways. -/

/-- Whether something that is listed is at the place or beyond it. -/
def isListed (w : Workspace) (place : Place) : Bool :=
  w.directories.any (·.isThrough place) || w.files.any (·.1.isThrough place)
    || w.devices.any (·.1.isThrough place)

/-- What is at a place. -/
def node (w : Workspace) (place : Place) : Node :=
  match w.files.lookup place, w.devices.lookup place with
  | some bytes, _ => .file bytes
  | none, some device => .device device
  | none, none => if place.names.isEmpty || w.isListed place then .directory else .nothing

/-- Where a name leads from a directory. -/
def next (w : Workspace) (place : Place) (piece : String) : Place :=
  (w.links.lookup (place.follow piece)).getD (place.follow piece)

/-- Where a name leads from a directory, and what is there. -/
def step (w : Workspace) (place : Place) (piece : String) : Except IoFault (Place × Node) :=
  if maxNameSize < piece.utf8ByteSize then .error .nameTooLong
  else
    match w.node (w.next place piece) with
    | .nothing =>
        if w.closed.any ((w.next place piece).isThrough ·) then .error .notFound
        else .ok (w.next place piece, .nothing)
    | node => .ok (w.next place piece, node)

/-! ## §4. Reading. -/

/-- The bytes that a device gives.  The program's own outputs give none. -/
def readDevice (w : Workspace) : Device → Except IoFault ByteArray
  | .null | .stdout | .stderr => .ok .empty
  | .zero | .random | .urandom | .full => .error .outOfMemory
  | .terminal => .error .noDevice
  | .stdin => .ok w.stdin

/-- The bytes of what the pieces lead to from a directory. -/
def readFrom (w : Workspace) (place : Place) : List String → Except IoFault ByteArray
  | [] => .error .isDirectory
  | p :: ps =>
      match w.step place p with
      | .error fault => .error fault
      | .ok (next, .directory) => w.readFrom next ps
      | .ok (_, .file bytes) => if ps.isEmpty then .ok bytes else .error .notDirectory
      | .ok (_, .device device) =>
          if ps.isEmpty then w.readDevice device else .error .notDirectory
      | .ok (_, .nothing) => .error .notFound

/-- The bytes of a file. -/
def read (w : Workspace) (path : String) : Except IoFault ByteArray :=
  match checkPath path with
  | .error fault => .error fault
  | .ok () => w.readFrom (pathOrigin path) (pathPieces path)

/-! ## §5. Directories. -/

/-- Whether the pieces lead to a directory from a directory. -/
def leadsToDirectory (w : Workspace) (place : Place) : List String → Bool
  | [] => true
  | p :: ps =>
      match w.step place p with
      | .ok (next, .directory) => w.leadsToDirectory next ps
      | _ => false

/-- Whether a path names a directory. -/
def isDirectory (w : Workspace) (path : String) : Bool :=
  match checkPath path with
  | .error _ => false
  | .ok () => w.leadsToDirectory (pathOrigin path) (pathPieces path)

/-- Make the directory that the pieces lead to from a directory.  Only the last
name may be missing. -/
def makeFrom (w : Workspace) (place : Place) : List String → Except IoFault Workspace
  | [] => .error .exists
  | p :: ps =>
      match w.step place p with
      | .error fault => .error fault
      | .ok (next, .directory) => w.makeFrom next ps
      | .ok (next, .nothing) =>
          if ps.isEmpty then .ok { w with directories := w.directories ++ [next] }
          else .error .notFound
      | .ok _ => .error (if ps.isEmpty then .exists else .notDirectory)

/-- Make a directory in one that is there. -/
def makeDirectory (w : Workspace) (path : String) : Except IoFault Workspace :=
  match checkPath path with
  | .error fault => .error fault
  | .ok () => w.makeFrom (pathOrigin path) (pathPieces path)

/-! ## §6. Writing. -/

/-- The workspace after a device took a text. -/
def take (w : Workspace) (device : Device) (text : String) : Workspace :=
  { w with taken := fun d => if d = device then w.taken d ++ text else w.taken d }

@[simp] theorem taken_take_self (w : Workspace) (device : Device) (text : String) :
    (w.take device text).taken device = w.taken device ++ text :=
  if_pos rfl

theorem taken_take_of_ne (w : Workspace) {device other : Device} (h : other ≠ device)
    (text : String) : (w.take device text).taken other = w.taken other :=
  if_neg h

/-- The files with the file at a place set. -/
def setFile (place : Place) (bytes : ByteArray) :
    List (Place × ByteArray) → List (Place × ByteArray)
  | [] => [(place, bytes)]
  | f :: fs => if f.1 = place then (place, bytes) :: fs else f :: setFile place bytes fs

/-- What a device refuses a text with, if it does. -/
def refusal? (text : String) : Device → Option IoFault
  | .full => if text.isEmpty then none else some .noSpace
  | .terminal => some .noDevice
  | _ => none

/-- Write a text to a device. -/
def writeDevice (w : Workspace) (text : String) (device : Device) : Except IoFault Workspace :=
  match refusal? text device with
  | some fault => .error fault
  | none => .ok (w.take device text)

/-- Write a text to what the pieces lead to from a directory.  A path that ends
in a slash is meant for a directory, whatever is there. -/
def writeFrom (w : Workspace) (text : String) (place : Place) :
    List String → Except IoFault Workspace
  | [] => .error .isDirectory
  | p :: ps =>
      if !ps.isEmpty && ps.all (· = "") then .error .isDirectory
      else
        match w.step place p with
        | .error fault => .error fault
        | .ok (next, .directory) => w.writeFrom text next ps
        | .ok (_, .device device) =>
            if ps.isEmpty then w.writeDevice text device else .error .notDirectory
        | .ok (next, .file _) =>
            if ps.isEmpty then .ok { w with files := setFile next text.toUTF8 w.files }
            else .error .notDirectory
        | .ok (next, .nothing) =>
            if ps.isEmpty then .ok { w with files := setFile next text.toUTF8 w.files }
            else .error .notFound

/-- Write a text to a file in a directory that is there. -/
def write (w : Workspace) (path : String) (text : String) : Except IoFault Workspace :=
  match checkPath path with
  | .error fault => .error fault
  | .ok () => w.writeFrom text (pathOrigin path) (pathPieces path)

/-- The files below the working directory that are new or changed since an
earlier workspace, with the names that lead to them. -/
def changesSince (w before : Workspace) : List (List String × ByteArray) :=
  (w.files.filter fun f =>
    f.1.isThrough .here &&
      match before.files.lookup f.1 with
      | some bytes => bytes.toList != f.2.toList
      | none => true).map fun f => (f.1.names, f.2)

end Workspace

end DeclExport.Command
