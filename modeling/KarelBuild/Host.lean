import KarelBuild.Fault
import KarelBuild.FileTree.Files
import KarelBuild.Include
import KarelBuild.SearchPath

/-!
# Hosts

The part of a computer that a build can see and change: its files, the working directory, the
environment, and how many workspaces have been made on it.
-/

namespace KarelBuild

structure Host where
  tree : FileTree
  workDir : WorkDir
  env : List (Text × Text)
  serial : Nat
  deriving DecidableEq, Repr

namespace Host

def files (h : Host) : Files := ⟨h.tree, h.workDir⟩

def var? (h : Host) (name : String) : Option Text := h.env.lookup name.toList

/-- The environment with one value for each name: the one that comes first. -/
def environment (h : Host) : List (Text × Text) :=
  h.env.foldr (fun v vars => v :: vars.filter (·.1 != v.1)) []

/-- The path of the working directory, as long as it is there. -/
def workPath (h : Host) : Except OsError Path :=
  if h.workDir.lost = 0 then .ok (Path.ofNames h.workDir.place) else .error .noEntry

def tempDir (h : Host) : Path := (h.var? "TMPDIR").getD "/tmp".toList

def setTree (h : Host) (t : FileTree) : Host := { h with tree := t, workDir := h.workDir.after t }

/-- The device at a path. -/
def device? (h : Host) (p : Path) : Option Device :=
  match h.tree.stat h.workDir p with
  | .ok (_, .device d) => some d
  | _ => none

/-! ## Text files -/

/-- The contents of a file; bytes that are no text come out as replacement characters. -/
def readText (h : Host) (p : Path) : Except Fault Text :=
  (refusedDuring (.readingFile p) (h.tree.read h.workDir p)).map Utf8.decode

def includesOf (h : Host) (source : Path) : Except Fault (List Text) :=
  (h.readText source).map includes

/-- The directory that has to be made before a file can be written. -/
def missingParent? (h : Host) (p : Path) : Option Path :=
  (Path.parent? p).bind fun parent =>
    if parent = [] ∨ h.tree.pathExists h.workDir parent then none else some parent

def writeText (h : Host) (p : Path) (text : Text) : Except Fault Unit × Host :=
  match h.missingParent? p with
  | none => write h
  | some parent =>
    match h.tree.makeDirAll h.workDir parent with
    | (.error e, t) => (.error (.during (.creatingDirectory parent) (.system e)), h.setTree t)
    | (.ok (), t) => write (h.setTree t)
where
  write (h : Host) : Except Fault Unit × Host :=
    match h.tree.write h.workDir p (Utf8.encode text) with
    | .error e => (.error (.during (.writingFile p) (.system e)), h)
    | .ok t => (.ok (), h.setTree t)

/-! ## Executables -/

/-- The directories that programs are looked for in; `~` in front stands for the home directory. -/
def programDirs (h : Host) : List Path :=
  ((h.var? "PATH").map (Text.split ':')).getD []

def expandHome (h : Host) (dir : Path) : Path :=
  match dir, h.var? "HOME" with
  | '~' :: rest, some home =>
    if home = [] then dir
    else if rest = [] ∨ Path.isAbsolute rest then Path.extend home rest
    else dir
  | _, _ => dir

/-- A relative path put behind the working directory, as long as that is there. -/
def fromWorkDir (h : Host) (p : Path) : Path :=
  match h.workPath with
  | .ok dir => if Path.isAbsolute p then p else Path.extend dir p
  | .error _ => p

/-- The executable of this name in the first directory of the search list that has one. -/
def findProgram? (h : Host) (name : Path) : Option Path :=
  ((h.programDirs.map fun dir => Path.join (h.expandHome dir) name).find?
    (h.tree.isExecutable h.workDir)).map h.fromWorkDir

end Host

end KarelBuild
