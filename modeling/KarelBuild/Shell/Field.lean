import KarelBuild.Shell.Pattern
import KarelBuild.Shell.State

/-!
# Fields

What a word expands to is cut into fields. Only what came out of an expansion outside quotes is cut,
at the characters that separate fields; all arguments between quotes are cut where they meet. A
field that is a pattern becomes the paths that match it.
-/

namespace KarelBuild.Shell

/-- A character, the trace of quotes, or the gap between two arguments. -/
inductive Glyph where
  | char (c : Char) (active : Bool)
  | mark
  | gap
  deriving DecidableEq, Repr

inductive Splitting where
  | never
  | atSeparators
  | atGaps
  deriving DecidableEq, Repr

/-- Glyphs that are cut in one way. -/
structure Run where
  splitting : Splitting
  glyphs : List Glyph

namespace Glyph

def ofText (active : Bool) (t : Octets) : List Glyph := t.map (.char · active)

def marked? : Glyph → Option Marked
  | char c active => some (c, active)
  | mark => none
  | gap => some (' ', false)

end Glyph

namespace Run

def fixed (active : Bool) (t : Octets) : Run := ⟨.never, Glyph.ofText active t⟩

def marked (rs : List Run) : List Marked := rs.flatMap fun r => r.glyphs.filterMap Glyph.marked?

def text (rs : List Run) : Octets := (marked rs).map (·.1)

end Run

/-! ## Cutting -/

/-- What separates fields: characters, of which the blank ones count as one where they meet. -/
structure Separators where
  all : List Char
  deriving DecidableEq, Repr

namespace Separators

def blanks : List Char := [' ', '\t', '\n']

def usual : Separators := ⟨blanks⟩

def ofProcess (p : Process) : Separators :=
  match p.value? "IFS".toList with
  | some t => ⟨t⟩
  | none => usual

/-- What stands between arguments that are joined. -/
def joint (p : Process) : Octets :=
  match p.value? "IFS".toList with
  | some t => t.take 1
  | none => [' ']

def contains (s : Separators) : Glyph → Bool
  | .char c _ => s.all.contains c
  | .mark => false
  | .gap => true

def isBlank : Glyph → Bool
  | .char c _ => blanks.contains c
  | .mark => false
  | .gap => true

end Separators

/-- Fields that are complete and the one at work, all backwards. -/
structure Cutting where
  done : List (List Glyph) := []
  current : List Glyph := []
  /-- A blank separator has just ended a field. -/
  afterBlank : Bool := false
  atGaps : Bool := false

namespace Cutting

def close (k : Cutting) : Cutting := { k with done := k.current.reverse :: k.done, current := [] }

/-- One glyph that may separate fields. -/
def step (s : Separators) (wasAtGaps : Bool) (k : Cutting) (g : Glyph) : Cutting :=
  let separates := s.contains g
  let blank := separates && Separators.isBlank g
  if k.afterBlank then
    if blank then { k with current := [] }
    else { k with current := if separates then [] else [g], afterBlank := false }
  else if separates then
    let afterBlank := blank && !(wasAtGaps || k.atGaps)
    if k.current = [] ∧ afterBlank then k
    else { k.close with afterBlank }
  else { k with current := g :: k.current }

def add (s : Separators) (k : Cutting) (r : Run) : Cutting :=
  match r.splitting with
  | .never => { k with current := r.glyphs.reverse ++ k.current }
  | .atSeparators =>
    r.glyphs.foldl (step s k.atGaps) { k with afterBlank := false, atGaps := false }
  | .atGaps =>
    r.glyphs.foldl (step ⟨[]⟩ k.atGaps) { k with afterBlank := false, atGaps := true }

def fields (s : Separators) (rs : List Run) : List (List Glyph) :=
  let k := rs.foldl (add s) {}
  (if k.atGaps || k.current ≠ [] then k.close else k).done.reverse

end Cutting

/-! ## Paths that match -/

/-- A name in a path, and the slashes behind it. -/
abbrev Step := List Marked × Octets

def isSlash (m : Marked) : Bool := m.1 == '/'

/-- The steps of a path; slashes in front are a step without a name. -/
def pathSteps : (steps : Nat) → List Marked → List Step
  | 0, _ => []
  | _, [] => []
  | n + 1, m :: r =>
    let name := (m :: r).takeWhile (!isSlash ·)
    let rest := (m :: r).drop name.length
    let slashes := rest.takeWhile isSlash
    (name, slashes.map (·.1)) :: pathSteps n (rest.drop slashes.length)

/-- What the rich dialect may do otherwise when it looks for names. -/
def hasHabit (s : State) (name : String) : Bool := s.shell.habits.any (· == name.toList)

/-- Text in which letters count as one in either case, if names are compared so. -/
def inOneCase (s : State) (t : Octets) : Octets :=
  if hasHabit s "nocaseglob" then t.map Char.toLower else t

def childrenOf (s : State) (dir : Octets) : List Octets :=
  let path := if dir = [] then ['.'] else Octets.toText dir
  match s.world.tree.readDir s.shell.workDir path with
  | .error _ => []
  | .ok children => children.map fun (n, _) => Octets.ofText n

/-- The names in a directory that match; a leading dot has to be written. -/
def matchingNames (s : State) (dir : Octets) (pattern : List Marked) : List Octets :=
  let path := if dir = [] then ['.'] else Octets.toText dir
  if !(s.world.tree.readDir s.shell.workDir path).isOk then []
  else
    let rich := s.shell.dialect == .rich
    let isDotted := (Pattern.unescape pattern).head?.map (·.1) == some '.'
    let dotted := isDotted || hasHabit s "dotglob"
    let own : List Octets := if isDotted && !rich then [['.'], ['.', '.']] else []
    let names := own ++ childrenOf s dir
    let is := Pattern.itemsWith rich (hasHabit s "extglob") (pattern.map fun m => match inOneCase s [m.1] with
      | [c] => (c, m.2)
      | _ => m)
    (names.filter fun n => dotted || n.head? != some '.').filter fun n => Pattern.isMatch is (inOneCase s n)

def isThere (s : State) (path : Octets) : Bool :=
  (s.world.tree.statLink s.shell.workDir (Octets.toText path)).isOk

def isDirThere (s : State) (path : Octets) : Bool :=
  match s.world.tree.statLink s.shell.workDir (Octets.toText path) with
  | .ok (_, .dir) => true
  | _ => false

/-- What is below a directory, at most `depth` deep: its paths, behind a path in front. -/
def allBelow (s : State) (onlyDirs : Bool) : (depth : Nat) → Octets → List Octets
  | 0, _ => []
  | n + 1, dir =>
    let names := (childrenOf s dir).filter fun n => n.head? != some '.' || hasHabit s "dotglob"
    names.flatMap fun name =>
      let path := dir ++ name
      if isDirThere s path then path :: allBelow s onlyDirs n (path ++ ['/'])
      else if onlyDirs then [] else [path]

def maxLevels : Nat := 256

/-- The paths that go on from one along steps. Two stars alone stand for any number of directories, if the
habit for that is on. -/
def pathsFrom (s : State) : (matched : Bool) → Octets → List Step → List Octets
  | matched, path, [] => if !matched || isThere s path then [path] else []
  | matched, path, (name, slashes) :: rest =>
    if hasHabit s "globstar" && name == [('*', true), ('*', true)] then
      if slashes = [] then (if path = [] then [] else [path]) ++ allBelow s false maxLevels path
      else
        let dirs := (allBelow s true maxLevels path).map (· ++ ['/'])
        (path :: dirs).flatMap fun p => pathsFrom s true p rest
    else if Pattern.isPattern (hasHabit s "extglob") name then
      (matchingNames s path name).flatMap fun n => pathsFrom s true (path ++ n ++ slashes) rest
    else pathsFrom s matched (path ++ (Pattern.unescape name).map (·.1) ++ slashes) rest

/-- The paths that match a field, in order; `none` if the field is no pattern. -/
def foundPaths? (s : State) (field : List Marked) : Option (List Octets) :=
  if s.shell.options.contains 'f' || !Pattern.isPattern (hasHabit s "extglob") field then none
  else some ((pathsFrom s false [] (pathSteps field.length field)).mergeSort Text.le)

/-- The field as it is, or the paths that match it, in order. -/
def pathsOf (s : State) (field : List Marked) : List Octets :=
  match foundPaths? s field with
  | some (p :: ps) => p :: ps
  | some [] => if hasHabit s "nullglob" then [] else [field.map (·.1)]
  | none => [field.map (·.1)]

end KarelBuild.Shell
