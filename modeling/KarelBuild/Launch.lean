import KarelBuild.Host
import KarelBuild.Image
import KarelBuild.Text.Utf8

/-!
# Starting programs

A program is started by its path, or by a name that is looked for in a list of directories. A script
is handed to its interpreter, so in the end some native program runs.
-/

namespace KarelBuild

/-- A native program and its arguments, the first of which is the name it goes by. -/
structure Launch where
  program : Text
  name : Octets
  args : List Octets
  deriving DecidableEq, Repr

namespace Launch

/-- How many interpreters may lead from a script to a native program. -/
def maxInterpreters : Nat := 6

/-- Load the image at a path; a script comes after its interpreter's own argument. -/
def load (t : FileTree) (workDir : WorkDir) : (interpreters : Nat) → Path → Octets → List Octets →
    Except OsError Launch
  | 0, _, _, _ => .error .tooManyLinks
  | n + 1, path, name, args => do
    match ← t.stat workDir path with
    | (_, .file contents true) =>
      match Image.ofBytes? contents with
      | some (.native program) => .ok ⟨program, name, args⟩
      | some (.script interpreter argument) =>
        load t workDir n interpreter (Octets.ofText interpreter)
          ((argument.map Octets.ofBytes).toList ++ Octets.ofText path :: args)
      | none => .error .notExecutable
    | _ => .error .permission

/-- How long an argument may be with the zero byte at its end, and how much room there is for all. -/
def maxStringSize : Nat := 0x20000

def maxRoom : Nat := 0x200000

/-- Whether arguments and settings of variables are too long to start a program with them. -/
def isTooLong (strings : List Octets) : Bool :=
  strings.any (maxStringSize ≤ ·.length) || maxRoom < sumOf (strings.map (·.length + 9))

/-- Refuse strings that are too long for a program that is there. -/
def limited (strings : List Octets) (r : Except OsError Launch) : Except OsError Launch :=
  match r with
  | .ok _ => if isTooLong strings then .error .argumentsTooLong else r
  | .error .notExecutable => if isTooLong strings then .error .argumentsTooLong else r
  | r => r

def ofPath (t : FileTree) (workDir : WorkDir) (path : Path) (args : List Octets) :
    Except OsError Launch :=
  load t workDir maxInterpreters path (Octets.ofText path) args

/-- The path of a name in a directory; the empty directory is the working directory. -/
def pathIn (dir : Path) (name : Text) : Path := if dir = [] then name else dir ++ '/' :: name

/-- Try the directories in order. One that does not have the program is passed over, and one where
it may not be run is remembered. -/
def search (t : FileTree) (workDir : WorkDir) (name : Text) (args : List Octets) :
    (refused : OsError) → List Path → Except OsError Launch
  | refused, [] => .error refused
  | refused, dir :: dirs =>
    match load t workDir maxInterpreters (pathIn dir name) (Octets.ofText name) args with
    | .ok l => .ok l
    | .error .noEntry => search t workDir name args refused dirs
    | .error .notDirectory => search t workDir name args refused dirs
    | .error .permission => search t workDir name args .permission dirs
    | .error e => .error e

/-- Where programs are looked for without a list of directories. -/
def defaultDirs : List Path := ["/bin".toList, "/usr/bin".toList]

/-- A name with a slash is a path. -/
def find (t : FileTree) (workDir : WorkDir) (dirs : List Path) (name : Text) (args : List Octets) :
    Except OsError Launch :=
  if name = [] then .error .noEntry
  else if name.contains '/' then ofPath t workDir name args
  else if FileTree.maxNameSize < Utf8.size name then .error .nameTooLong
  else search t workDir name args .noEntry dirs

end Launch

end KarelBuild
