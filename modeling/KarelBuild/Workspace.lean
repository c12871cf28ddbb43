import KarelBuild.FileTree.Removal
import KarelBuild.Host

/-!
# Workspaces

A workspace is a fresh directory that belongs to one build. It is removed with everything in it
when the build is over, and what cannot be removed never changes how the build ended.
-/

namespace KarelBuild

structure Workspace where
  path : Path
  deriving DecidableEq, Repr

namespace Workspace

/-- The number of a workspace as six digits. -/
def sixDigits (n : Nat) : Text := (Text.ofNat (1000000 + n % 1000000)).drop 1

def nameOf (serial : Nat) : Name := "ktransw-".toList ++ sixDigits serial ++ "-buildd".toList

/-- A relative parent counts from the working directory. -/
def baseOf (h : Host) (parent : Path) : Except OsError Path :=
  if Path.isAbsolute parent then .ok parent else h.workPath.map (Path.join · parent)

/-- Make a directory with the first unused name, trying at most `tries` names. -/
def createIn (base : Path) : (tries : Nat) → Host → Except Fault (Workspace × Host)
  | 0, _ => .error (.systemAt .alreadyThere base)
  | tries + 1, h =>
    let path := Path.join base (nameOf h.serial)
    let next := { h with serial := h.serial + 1 }
    match h.tree.makeDir h.workDir path with
    | .ok t => .ok (⟨path⟩, next.setTree t)
    | .error .alreadyThere => createIn base tries next
    | .error e => .error (.systemAt e path)

/-- A fresh workspace in a directory; among one more names than there are entries one is free. -/
def create (parent : Path) (h : Host) : Except Fault (Workspace × Host) :=
  let made : Except Fault (Workspace × Host) :=
    match baseOf h parent with
    | .error e => .error (.system e)
    | .ok base => createIn base (h.tree.entries.length + 1) h
  made.mapError (.during (.creatingWorkspace parent))

/-- The file of the same name in the workspace. -/
def filePath (w : Workspace) (file : Path) : Path :=
  match Path.fileName? file with
  | some name => Path.join w.path name
  | none => Path.join w.path file

/-! ## Clean-up -/

def noteOf : RemovalStep → Option Note
  | .removed _ _ => none
  | .failed _ p reason => some (.notRemoved p reason)
  | .skipped p e => some (.skipping p e)

def cleanupNotes (w : Workspace) (steps : List RemovalStep) : List Note :=
  steps.filterMap noteOf ++
    (if failureCount steps = 0 then [] else [.leftBehind (failureCount steps) w.path])

/-- The one removal pass over a workspace. -/
def cleanup (w : Workspace) (r : Remover) (h : Host) : Host × List RemovalStep :=
  let (t, steps) := FileTree.removeTree r h.workDir w.path h.tree
  (h.setTree t, steps)

/-! ## Ownership -/

/-- A workspace with its owner's note of whether it has been released. -/
structure Owned where
  workspace : Workspace
  released : Bool := false
  deriving DecidableEq, Repr

namespace Owned

/-- The first clean-up makes the pass, and a later one does nothing. -/
def cleanup (o : Owned) (r : Remover) (h : Host) : Owned × Host × List RemovalStep :=
  if o.released then (o, h, [])
  else
    let (h', steps) := o.workspace.cleanup r h
    ({ o with released := true }, h', steps)

/-- What happens when the owner is gone. -/
def drop (o : Owned) (r : Remover) (h : Host) : Host × List RemovalStep := (o.cleanup r h).2

/-- Clean up now; after that the owner is gone. -/
def release (o : Owned) (r : Remover) (h : Host) : Host × List RemovalStep :=
  let (o', h', steps) := o.cleanup r h
  let (h'', more) := o'.drop r h'
  (h'', steps ++ more)

end Owned

end Workspace

end KarelBuild
