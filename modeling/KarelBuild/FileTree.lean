import KarelBuild.Path

/-!
# File trees

A tree maps places to entries. A place is the list of names from the root to the entry, with no
link, `.` or `..` in it; the root is always a directory. New entries come last, so a directory
stands before what is in it.
-/

namespace KarelBuild

abbrev Name := Text

abbrev Place := List Name

/-- Devices. There is nothing to read from `null` and no end to what is read from `zero` and `full`;
writing to `full` finds no room. There is no `terminal`, `descriptor` is what whoever opens it has
open under that number, and a `pipe` leads from those who write to it to those who read from it. -/
inductive Device where
  | null
  | zero
  | full
  | terminal
  | descriptor (n : Nat)
  | pipe (n : Nat)
  deriving DecidableEq, Repr

inductive Entry where
  | file (contents : Bytes) (executable : Bool)
  | dir
  | link (target : Path)
  | device (d : Device)
  deriving DecidableEq, Repr

namespace Entry

def isDir : Entry → Bool
  | dir => true
  | _ => false

def isLink : Entry → Bool
  | link _ => true
  | _ => false

end Entry

structure FileTree where
  entries : List (Place × Entry)
  deriving DecidableEq, Repr

namespace FileTree

def empty : FileTree := ⟨[]⟩

def entry? (t : FileTree) (p : Place) : Option Entry :=
  if p = [] then some .dir else t.entries.lookup p

/-- Change the entry of a place where it stands in the list, or add it at the end. -/
def putIn (p : Place) (e : Entry) : List (Place × Entry) → List (Place × Entry)
  | [] => [(p, e)]
  | (q, old) :: r => if q = p then (p, e) :: r else (q, old) :: putIn p e r

def put (t : FileTree) (p : Place) (e : Entry) : FileTree := ⟨putIn p e t.entries⟩

def erase (t : FileTree) (p : Place) : FileTree := ⟨t.entries.filter (·.1 != p)⟩

/-- The entries strictly below a place, named from there. -/
def below (t : FileTree) (p : Place) : List (List Name × Entry) :=
  t.entries.filterMap fun (q, e) =>
    match p.isPrefixOf? q with
    | some (n :: names) => some (n :: names, e)
    | _ => none

/-- The entries of a directory, by name. -/
def children (t : FileTree) (p : Place) : List (Name × Entry) :=
  (t.below p).filterMap fun (names, e) =>
    match names with
    | [n] => some (n, e)
    | _ => none

/-- Forget a place and everything below it. -/
def eraseAll (t : FileTree) (p : Place) : FileTree := ⟨t.entries.filter (!p.isPrefixOf ·.1)⟩

/-! ## Listing -/

def mark : Entry → Text
  | .dir => ['/']
  | .link _ => ['@']
  | .file _ _ => []
  | .device _ => []

/-- Everything below a place, directories marked with `/` and links with `@`, in order. -/
def listing (t : FileTree) (p : Place) : List Text :=
  ((t.below p).map fun (names, e) => Text.join ['/'] names ++ mark e).mergeSort Text.le

end FileTree

end KarelBuild
