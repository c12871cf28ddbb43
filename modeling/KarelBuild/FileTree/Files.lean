import KarelBuild.FileTree.Lookup

/-!
# Files and directories by path

Each operation takes the directory that relative paths count from. An operation that changes one
entry gives the changed tree or a refusal; one that may change several gives the tree either way.
-/

namespace KarelBuild

namespace FileTree

variable (t : FileTree) (workDir : WorkDir) (p : Path)

/-! ## Questions -/

/-- The entry of a path, links followed. -/
def stat : Except OsError (Place × Entry) :=
  match lostDir? workDir p with
  | some place => .ok (place, .dir)
  | none =>
    (t.locate workDir p).bind fun place =>
      match t.entry? place with
      | some e => .ok (place, e)
      | none => .error .noEntry

/-- The entry of a path; a link in last place is not followed, unless a slash comes after it. -/
def statLink : Except OsError (Place × Entry) :=
  if Path.endsInSlash p then t.stat workDir p
  else
    (t.locateIn workDir p).bind fun
      | (_, none) => t.stat workDir p
      | (dir, some name) =>
        match t.entry? (dir ++ [name]) with
        | some e => .ok (dir ++ [name], e)
        | none => .error .noEntry

def pathExists : Bool := (t.stat workDir p).isOk

def isFile : Bool :=
  match t.stat workDir p with
  | .ok (_, .file _ _) => true
  | _ => false

def isDir : Bool :=
  match t.stat workDir p with
  | .ok (_, .dir) => true
  | _ => false

def isExecutable : Bool :=
  match t.stat workDir p with
  | .ok (_, .file _ executable) => executable
  | _ => false

/-! ## Reading -/

def read : Except OsError Bytes :=
  (t.stat workDir p).bind fun
    | (_, .file contents _) => .ok contents
    | (_, .dir) => .error .isDirectory
    | (_, .link _) => .error .tooManyLinks
    | (_, .device d) => if d = .terminal then .error .noDevice else .ok []

/-- The entries of a directory. -/
def readDir : Except OsError (List (Name × Entry)) :=
  (t.locate workDir p).bind fun place =>
    match t.entry? place with
    | some .dir => .ok (t.children place)
    | some _ => .error .notDirectory
    | none => .error .noEntry

/-! ## Creating -/

/-- Whether only the system makes entries at a place: it keeps those below `/proc`. -/
def isReserved (place : Place) : Bool := place.head? == some "proc".toList

/-- The place of a file to write to, which may be missing in its directory. -/
def writable : Except OsError Place :=
  match lostDir? workDir p with
  | some _ => .error .isDirectory
  | none =>
    (t.locateNew workDir p).bind fun place =>
      match t.entry? place with
      | some .dir => .error .isDirectory
      | some _ => .ok place
      | none => if isReserved place then .error .noEntry else .ok place

/-- What a device makes of what is written to it. -/
def feed (d : Device) (contents : Bytes) : Except OsError FileTree :=
  match d with
  | .full => if contents = [] then .ok t else .error .noSpace
  | .terminal => .error .noDevice
  | _ => .ok t

/-- Give a file new contents, creating it if it is missing in its directory. -/
def write (contents : Bytes) : Except OsError FileTree :=
  (t.writable workDir p).bind fun place =>
    match t.entry? place with
    | some .dir => .error .isDirectory
    | some (.file _ executable) => .ok (t.put place (.file contents executable))
    | some (.link _) => .error .tooManyLinks
    | some (.device d) => t.feed d contents
    | none => .ok (t.put place (.file contents false))

def makeDir : Except OsError FileTree :=
  (t.locateIn workDir p).bind fun
    | (_, none) => .error .alreadyThere
    | (dir, some name) =>
      match t.entry? (dir ++ [name]) with
      | some _ => .error .alreadyThere
      | none => if isReserved dir then .error .noEntry else .ok (t.put (dir ++ [name]) .dir)

/-- Make the first directory of a list; as long as its parent, which comes next, is missing, that is
made before. Directories made on the way stay when a later one is refused. -/
def makeDirs : List Path → FileTree → Except OsError Unit × FileTree
  | [], t => (.ok (), t)
  | p :: parents, t =>
    match t.makeDir workDir p with
    | .ok t' => (.ok (), t')
    | .error .noEntry =>
      match makeDirs parents t with
      | (.error e, t') => (.error e, t')
      | (.ok (), t') =>
        match t'.makeDir workDir p with
        | .ok t'' => (.ok (), t'')
        | .error e => (if t'.isDir workDir p then .ok () else .error e, t')
    | .error e => (if t.isDir workDir p then .ok () else .error e, t)

/-- A path and its parents up to the root or the empty path; `n` bounds their number. -/
def ancestors : (n : Nat) → Path → List Path
  | 0, _ => []
  | n + 1, p => if p = [] then [] else p :: ((Path.parent? p).map (ancestors n)).getD []

/-- Make a directory and those above it that are missing. -/
def makeDirAll : Except OsError Unit × FileTree :=
  makeDirs workDir (ancestors (p.length + 1) p) t

def makeLink (target : Path) : Except OsError FileTree :=
  (t.locateIn workDir p).bind fun
    | (_, none) => .error .alreadyThere
    | (dir, some name) =>
      match t.entry? (dir ++ [name]) with
      | some _ => .error .alreadyThere
      | none => if isReserved dir then .error .noEntry else .ok (t.put (dir ++ [name]) (.link target))

/-- Put an entry at a path, with the directories above it. What cannot be done is left out. -/
def install (e : Entry) : FileTree :=
  let t := (t.makeDirAll workDir ((Path.parent? p).getD [])).2
  match e with
  | .dir => (t.makeDirAll workDir p).2
  | .link target =>
    let cleared := ((t.statLink workDir p).toOption.map fun found => t.erase found.1).getD t
    (cleared.makeLink workDir p target).toOption.getD t
  | .device _ => ((t.writable workDir p).map fun place => t.put place e).toOption.getD t
  | .file contents executable =>
    let written := (t.write workDir p contents).toOption.getD t
    match written.stat workDir p with
    | .ok (place, .file _ _) => if executable then written.put place e else written
    | _ => written

/-! ## Removing -/

/-- Remove an entry that is no directory; a link goes, not its target. -/
def removeFile : Except OsError FileTree :=
  (t.locateIn workDir p).bind fun
    | (_, none) => .error .isDirectory
    | (dir, some name) =>
      match t.entry? (dir ++ [name]) with
      | none => .error .noEntry
      | some .dir => .error .isDirectory
      | some _ =>
        if Path.endsInSlash p then .error .notDirectory else .ok (t.erase (dir ++ [name]))

/-- Remove a directory that has no entries. -/
def removeDir : Except OsError FileTree :=
  (t.locateIn workDir p).bind fun
    | (_, none) =>
      match (Path.pieces p).getLast? with
      | none => .error .busy
      | some last => .error (if last = ['.'] then .invalid else .notEmpty)
    | (dir, some name) =>
      match t.entry? (dir ++ [name]) with
      | none => .error .noEntry
      | some .dir =>
        if (t.below (dir ++ [name])).isEmpty then .ok (t.erase (dir ++ [name]))
        else .error .notEmpty
      | some _ => .error .notDirectory

end FileTree

end KarelBuild
