import KarelBuild.FileTree
import KarelBuild.OsError

/-!
# Finding the place of a path

Names are followed one by one from a directory. A link is replaced by the names of its target;
at most `maxLinks` links are followed for one path.
-/

namespace KarelBuild

/-- A working directory. It stays one when it is removed: then its last `lost` names stand for
directories that are gone, in which nothing is found and nothing can be made. -/
structure WorkDir where
  place : Place
  lost : Nat := 0
  deriving DecidableEq, Repr

namespace WorkDir

def root : WorkDir := ⟨[], 0⟩

/-- The directory above. -/
def up (w : WorkDir) : WorkDir := ⟨w.place.dropLast, w.lost - 1⟩

/-- Whether the tree holds all but the last `n` names. -/
def isHeldBut (w : WorkDir) (t : FileTree) (n : Nat) : Bool :=
  t.entry? (w.place.take (w.place.length - n)) == some .dir

/-- The working directory after the tree was changed: what is gone stays gone. -/
def after (w : WorkDir) (t : FileTree) : WorkDir :=
  let gone := (List.range (w.place.length + 1)).find? fun n => w.lost ≤ n && w.isHeldBut t n
  { w with lost := gone.getD w.place.length }

/-- Follow names out of what is gone, as far as `.` and `..` lead. -/
def leave : WorkDir → List Name → WorkDir × List Name
  | w, [] => (w, [])
  | w, n :: rest =>
    if w.lost = 0 then (w, n :: rest)
    else if n = [] ∨ n = ['.'] then leave w rest
    else if n = ['.', '.'] then leave w.up rest
    else (w, n :: rest)

end WorkDir

namespace FileTree

def maxLinks : Nat := 40

def maxNameSize : Nat := 255

def maxPathSize : Nat := 4095

/-- Follow names until a link comes, which is left to `onLink` with the directory that its target
counts from and all names still to follow. The last name may be missing in its directory. The empty
name stands for a slash at the end, which no file to be `made` may have. -/
def followNames (t : FileTree) (made : Bool) (onLink : Place → List Name → Except OsError Place) :
    Place → List Name → Except OsError Place
  | here, [] => .ok here
  | here, n :: rest =>
    match t.entry? here with
    | some .dir =>
      if n = [] ∨ n = ['.'] then followNames t made onLink here rest
      else if n = ['.', '.'] then followNames t made onLink here.dropLast rest
      else if made ∧ rest = [[]] then .error .isDirectory
      else if maxNameSize < Utf8.size n then .error .nameTooLong
      else match t.entry? (here ++ [n]) with
        | some (.link target) =>
          onLink (if Path.isAbsolute target then [] else here) (Path.steps target ++ rest)
        | some _ => followNames t made onLink (here ++ [n]) rest
        | none => if rest = [] then .ok (here ++ [n]) else .error .noEntry
    | some _ => .error .notDirectory
    | none => .error .noEntry

/-- Follow names and up to `links` links. -/
def follow (t : FileTree) (made : Bool) : (links : Nat) → Place → List Name → Except OsError Place
  | 0 => followNames t made fun _ _ => .error .tooManyLinks
  | links + 1 => followNames t made (follow t made links)

/-- What is wrong with a path whatever the tree holds. -/
def refusePath (p : Path) : Option OsError :=
  if '\x00' ∈ p then some .nulInName
  else if p = [] then some .noEntry
  else if maxPathSize < Utf8.size p then some .nameTooLong
  else none

def startOf (workDir : WorkDir) (p : Path) : WorkDir := if Path.isAbsolute p then .root else workDir

/-- The directory that is gone, but which a path from a removed working directory still leads to. -/
def lostDir? (workDir : WorkDir) (p : Path) : Option Place :=
  match (startOf workDir p).leave (Path.steps p) with
  | (⟨place, _ + 1⟩, []) => if p = [] then none else some place
  | _ => none

/-- Follow names from a working directory. -/
def followFrom (t : FileTree) (made : Bool) (w : WorkDir) (names : List Name) : Except OsError Place :=
  match w.leave names with
  | (⟨place, 0⟩, names) => t.follow made maxLinks place names
  | _ => .error .noEntry

/-- The place of a path, links followed; its last name may be missing. -/
def locate (t : FileTree) (workDir : WorkDir) (p : Path) : Except OsError Place :=
  match refusePath p with
  | some e => .error e
  | none => t.followFrom false (startOf workDir p) (Path.steps p)

/-- The place of a file that is made if it is missing. -/
def locateNew (t : FileTree) (workDir : WorkDir) (p : Path) : Except OsError Place :=
  match refusePath p with
  | some e => .error e
  | none => t.followFrom true (startOf workDir p) (Path.steps p)

/-- The directory that the last name of a path stands in, and that name. Slashes at the end are
passed over, and `none` stands for a last name that is no name of an entry: the root, `.`, `..`. -/
def locateIn (t : FileTree) (workDir : WorkDir) (p : Path) : Except OsError (Place × Option Name) :=
  match refusePath p with
  | some e => .error e
  | none =>
    let names := Path.pieces p
    let last := names.getLastD ['.']
    match lostDir? workDir p with
    | some place => .ok (place, none)
    | none =>
      (t.followFrom false (startOf workDir p) names.dropLast).bind fun dir =>
        match t.entry? dir with
        | none => .error .noEntry
        | some .dir =>
          if last = ['.'] ∨ last = ['.', '.'] then .ok (dir, none)
          else if maxNameSize < Utf8.size last then .error .nameTooLong
          else .ok (dir, some last)
        | some _ => .error .notDirectory

end FileTree

end KarelBuild
