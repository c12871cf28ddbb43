import KarelBuild.Fault
import KarelBuild.FileTree.Files
import KarelBuild.Header
import KarelBuild.Note

/-!
# Search paths

A search path is a list of directories; the first one that holds a file of a header's name wins.
`resolve` looks up one name, `collect` the names of a source under a policy for system headers and
for headers that are not there.
-/

namespace KarelBuild

structure SearchPath where
  dirs : List Path
  deriving DecidableEq, Repr

/-- Where files are looked up: the tree, and the directory that relative paths count from. -/
structure Files where
  tree : FileTree
  workDir : WorkDir
  deriving DecidableEq, Repr

namespace SearchPath

/-- Every directory in its absolute form, links left alone. -/
def ofDirs (workDir : Except OsError Path) (dirs : List Path) : Except Fault SearchPath :=
  (dirs.mapM (absolutePath workDir)).map SearchPath.mk

/-- The first directory that holds a file of this name. -/
def holder? (s : SearchPath) (files : Files) (name : Text) : Option Path :=
  s.dirs.find? fun dir => files.tree.isFile files.workDir (Path.join dir name)

/-- An absolute name stands for itself, any other for a file in the search path. -/
def resolve (s : SearchPath) (headers : SystemHeaders) (files : Files) (name : Text) :
    Option Dependency × List Note :=
  let isSystem := headers.contains name
  if Path.isAbsolute name then (some (.found name name isSystem), [])
  else match s.holder? files name with
    | some dir => (some (.found name (Path.join dir name) isSystem), [.found name dir])
    | none => (none, [])

end SearchPath

/-! ## All headers of a source -/

structure Policy where
  ignoreSystem : Bool
  tolerateMissing : Bool
  deriving DecidableEq, Repr

/-- A header that had to be found and was not. -/
structure MissingHeader where
  name : Text
  deriving DecidableEq, Repr

namespace MissingHeader

def message (m : MissingHeader) : Text :=
  "ktransw: fatal error: ".toList ++ m.name ++ ": No such file or directory".toList

/-- Faulty input data. -/
def exitCode : Int := 65

end MissingHeader

namespace SearchPath

/-- Resolve names in order. An ignored system header is not looked up, a tolerated missing header
stands for its own name, and the first header that is missing otherwise ends the search. -/
def collect (s : SearchPath) (headers : SystemHeaders) (files : Files) (policy : Policy) :
    List Text → Except MissingHeader (List Dependency) × List Note
  | [] => (.ok [], [])
  | name :: names =>
    let rest := collect s headers files policy names
    if policy.ignoreSystem && headers.contains name then (rest.1, .ignoring name :: rest.2)
    else match s.resolve headers files name with
      | (some d, notes) => (rest.1.map (d :: ·), notes ++ .adding d.path :: rest.2)
      | (none, notes) =>
        if policy.tolerateMissing then
          (rest.1.map (.generated name (headers.contains name) :: ·),
            notes ++ .assuming name :: rest.2)
        else (.error ⟨name⟩, notes)

end SearchPath

end KarelBuild
