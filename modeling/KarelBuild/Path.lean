import KarelBuild.Text
import KarelBuild.Text.Utf8

/-!
# Paths

A path is text whose names are separated by `/`. Nothing here looks at a file: a `..` stays, since
what it leads to depends on links.
-/

namespace KarelBuild

abbrev Path := Text

namespace Path

def isAbsolute (p : Path) : Bool := p.head? == some '/'

def endsInSlash (p : Path) : Bool := p.getLast? == some '/'

/-- A name below a directory; an absolute name stands for itself. -/
def join (dir name : Path) : Path :=
  if isAbsolute name then name
  else if dir = [] ∨ endsInSlash dir then dir ++ name
  else dir ++ '/' :: name

/-- What stands between the slashes, doubled slashes apart. -/
def pieces (p : Path) : List Text := (Text.split '/' p).filter (· != [])

/-- The names to follow; the empty name behind them stands for a slash at the end. -/
def steps (p : Path) : List Text :=
  if endsInSlash p then pieces p ++ [[]] else pieces p

/-- Add the names of a relative path one by one, `.` left out. -/
def extend (p names : Path) : Path := ((pieces names).filter (· != ['.'])).foldl join p

/-! ## The last name -/

/-- Drop slashes and `.` at the end, in a path read backwards; a lone `/` or `.` stays. -/
def trimBackwards : Text → Text
  | [] => []
  | c :: r =>
    if c = '/' then (if r = [] then ['/'] else trimBackwards r)
    else if c = '.' ∧ r.head? = some '/' then trimBackwards r
    else c :: r

def isSlash (c : Char) : Bool := c == '/'

/-- The path without its last name; `none` for the empty path and for `/`. -/
def parent? (p : Path) : Option Path :=
  let back := trimBackwards p.reverse
  if back = [] ∨ back = ['/'] then none
  else some (trimBackwards (back.dropWhile (!isSlash ·))).reverse

/-- The last name, if it is neither `.` nor `..`. -/
def fileName? (p : Path) : Option Text :=
  let name := ((trimBackwards p.reverse).takeWhile (!isSlash ·)).reverse
  if name = [] ∨ name = ['.'] ∨ name = ['.', '.'] then none else some name

/-- The last name up to its last dot; a dot in front does not count. -/
def fileStem? (p : Path) : Option Text :=
  (fileName? p).map fun name =>
    match Text.cutLast '.' name with
    | some (stem, _) => if stem = [] then name else stem
    | none => name

/-- How many parts a path has: the root, a leading `.`, and every name but `.`. -/
def partCount (p : Path) : Nat :=
  let lead := if isAbsolute p ∨ (Text.split '/' p).head? = some ['.'] then 1 else 0
  lead + ((pieces p).filter (· != ['.'])).length

/-! ## Absolute form -/

/-- Where the absolute form of a path starts: exactly two leading slashes are kept. -/
def start (workDir p : Path) : Path :=
  if !isAbsolute p then workDir
  else if "//".toList.isPrefixOf p && !"///".toList.isPrefixOf p then "//".toList
  else ['/']

/-- The absolute form of a path that is not empty: repeated slashes and `.` go, `..` and a slash at
the end stay. -/
def absoluteFrom (workDir p : Path) : Path :=
  let joined := extend (start workDir p) p
  if endsInSlash p && !endsInSlash joined then joined ++ ['/'] else joined

/-- The path of a place given by its names from the root. -/
def ofNames (names : List Text) : Path := '/' :: Text.join ['/'] names

end Path

end KarelBuild
