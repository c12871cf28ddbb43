import KarelBuild.FileTree.Files

/-!
# Removing a whole tree

A removal pass goes through everything at and below a path, contents before their directory, and
tries to remove each entry; what cannot be removed is left and counted. Links are removed and not
followed, with one exception: when the path itself is a link to a directory, the entries of that
directory are visited under the link's name after the link has been tried.
-/

namespace KarelBuild

inductive EntryKind where
  | file
  | dir
  deriving DecidableEq, Repr

/-- What becomes of an attempt: it is left to the system, or it is refused, with the entry left or
with the entry removed all the same. -/
inductive Verdict where
  | permit
  | refuse (reason : Text)
  | refuseAfter (reason : Text)
  deriving DecidableEq, Repr

abbrev Remover := EntryKind → Path → Verdict

def Remover.system : Remover := fun _ _ => .permit

inductive RemovalStep where
  | removed (kind : EntryKind) (path : Path)
  | failed (kind : EntryKind) (path : Path) (reason : Text)
  | skipped (path : Path) (e : OsError)
  deriving DecidableEq, Repr

namespace RemovalStep

def isFailure : RemovalStep → Bool
  | removed _ _ => false
  | failed _ _ _ => true
  | skipped _ _ => true

end RemovalStep

def Entry.kind : Entry → EntryKind
  | .dir => .dir
  | .file _ _ => .file
  | .link _ => .file
  | .device _ => .file

namespace FileTree

/-- The tree after a pass or a part of one, and the steps taken, in order. -/
abbrev Removal := FileTree × List RemovalStep

variable (r : Remover) (workDir : WorkDir)

def removeEntry (t : FileTree) (kind : EntryKind) (p : Path) : Except OsError FileTree :=
  match kind with
  | .file => t.removeFile workDir p
  | .dir => t.removeDir workDir p

def attempt (kind : EntryKind) (p : Path) (t : FileTree) : FileTree × RemovalStep :=
  match r kind p, t.removeEntry workDir kind p with
  | .permit, .ok t' => (t', .removed kind p)
  | .permit, .error e => (t, .failed kind p e.message)
  | .refuse reason, _ => (t, .failed kind p reason)
  | .refuseAfter reason, .ok t' => (t', .failed kind p reason)
  | .refuseAfter reason, .error _ => (t, .failed kind p reason)

/-- Try the entries of a list one after another, named from a directory. -/
def attemptAll (dir : Path) : List (List Name × Entry) → FileTree → Removal
  | [], t => (t, [])
  | (names, e) :: rest, t =>
    let (t', step) := attempt r workDir e.kind (names.foldl Path.join dir) t
    let (t'', steps) := attemptAll dir rest t'
    (t'', step :: steps)

/-- Contents before their directory: a directory is entered into the tree before what is in it. -/
def contentsFirst (t : FileTree) (p : Place) : List (List Name × Entry) := (t.below p).reverse

/-- Try the entries of a directory that can no longer be reached under its name: what is below its
directories stays unseen. -/
def attemptUnreachable (dir : Path) : List (Name × Entry) → FileTree → Removal
  | [], t => (t, [])
  | (n, e) :: rest, t =>
    let p := Path.join dir n
    let unread :=
      match e, t.readDir workDir p with
      | .dir, .error err => [.skipped p err]
      | _, _ => []
    let (t', step) := attempt r workDir e.kind p t
    let (t'', steps) := attemptUnreachable dir rest t'
    (t'', unread ++ step :: steps)

def removeDirTree (root : Path) (place : Place) (t : FileTree) : Removal :=
  let (t', steps) := attemptAll r workDir root (t.contentsFirst place) t
  let (t'', last) := attempt r workDir .dir root t'
  (t'', steps ++ [last])

def removeLinkTree (root : Path) (target : Place) (t : FileTree) : Removal :=
  let (t', first) := attempt r workDir .file root t
  let (t'', steps) :=
    if t'.isDir workDir root then attemptAll r workDir root (t'.contentsFirst target) t'
    else attemptUnreachable r workDir root (t'.children target) t'
  (t'', first :: steps)

/-- A path that nothing is found at is skipped, and so is a link that leads nowhere. -/
def removeTree (root : Path) (t : FileTree) : Removal :=
  match t.statLink workDir root, t.stat workDir root with
  | .error e, _ => (t, [.skipped root e])
  | .ok (place, .dir), _ => removeDirTree r workDir root place t
  | .ok (_, .link _), .error e => (t, [.skipped root e])
  | .ok (_, .link _), .ok (target, .dir) => removeLinkTree r workDir root target t
  | .ok _, _ =>
    let (t', step) := attempt r workDir .file root t
    (t', [step])

end FileTree

/-- How many entries could not be seen or removed. -/
def failureCount (steps : List RemovalStep) : Nat := steps.countP RemovalStep.isFailure

end KarelBuild
