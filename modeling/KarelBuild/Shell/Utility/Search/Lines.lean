import KarelBuild.Shell.Regex.Ordered
import KarelBuild.Shell.Utility.Files

/-!
# Lines that are selected

What a search does with the lines of one file: it judges them as they come, shows those that it selects with
the lines around them, and counts them. As soon as a file turns out to hold bytes that are no text, only
whether it matches is told.
-/

namespace KarelBuild.Shell.Utility.Search

open ShellM

/-- What is shown of a file. -/
inductive Showing where
  | lines
  | count
  /-- Its name, if lines were selected in it or if none were. -/
  | names (matching : Bool)
  | nothing
  deriving DecidableEq, Repr

/-- How files are taken that hold bytes that are no text. -/
inductive BinaryFiles where
  | told
  | asText
  | withoutMatch
  deriving DecidableEq, Repr

/-- What is searched for, and what is shown. -/
structure Style where
  regex : Regex
  stop : Char := '\n'
  inverted : Bool := false
  showing : Showing := .lines
  onlyMatches : Bool := false
  withNames : Bool := false
  numbers : Bool := false
  offsets : Bool := false
  tabbed : Bool := false
  colored : Bool := false
  /-- Whether a byte that is no part of any name stands behind names. -/
  nameEnd : Option Char := none
  limit : Option Nat := none
  before : Nat := 0
  after : Nat := 0
  /-- What stands between groups of lines, if lines around them are shown. -/
  separator : Option Octets := none
  binary : BinaryFiles := .told
  atOnce : Bool := false
  quiet : Bool := false
  silent : Bool := false

namespace Style

/-- Whether lines themselves are shown. -/
def showsLines (s : Style) : Bool := s.showing == .lines

def selects (s : Style) (line : Octets) : Bool := (s.regex.search line).isSome != s.inverted

end Style

/-- A text in a colour. -/
def colored (s : Style) (color : String) (o : Octets) : Octets :=
  if s.colored then
    "\x1b[".toList ++ color.toList ++ "m\x1b[K".toList ++ o ++ "\x1b[m\x1b[K".toList
  else o

/-- A line of a file: its number, how many bytes stand before it, and what is in it. -/
structure Line where
  number : Nat
  offset : Nat
  text : Octets

/-- A file that is searched: its name as it is shown, and the width of numbers. -/
structure Subject where
  name : Octets
  width : Nat

def nameText (s : Style) (name : Octets) (mark : Option Char) : Octets :=
  colored s "35" name ++ match s.nameEnd with
    | some c => [c]
    | none => mark.elim [] fun c => colored s "36" [c]

/-- What stands in front of a line, or of a match in it. -/
def lead (s : Style) (f : Subject) (mark : Char) (number offset : Nat) (text : Octets) : Octets :=
  let field (n : Nat) : Octets :=
    colored s "32" (padLeft f.width (Text.ofNat n)) ++ colored s "36" [mark]
  (if s.withNames then nameText s f.name (some mark) else []) ++
    (if s.numbers then field number else []) ++ (if s.offsets then field offset else []) ++
    if s.tabbed && (s.withNames || s.numbers || s.offsets) && text != [] then ['\t'] else []

/-- A line as it is shown. Of one that has matches these may be all that is shown, or they are in colour. -/
def shown (s : Style) (f : Subject) (selected : Bool) (l : Line) : Octets :=
  let mark := if selected then ':' else '-'
  let isMatching := selected != s.inverted
  let matched := if isMatching && (s.onlyMatches || s.colored) then
    (s.regex.allMatches l.text).filter (·.length > 0) else []
  let part (m : Regex.Match) : Octets := (l.text.drop m.start).take m.length
  if s.onlyMatches then
    if isMatching then
      matched.flatMap fun m =>
        lead s f (if s.inverted then '-' else ':') l.number (l.offset + m.start) (part m) ++
          colored s "01;31" (part m) ++ [s.stop]
    else []
  else
    let (parts, i) := matched.foldl (fun (parts, i) m =>
      (colored s "01;31" (part m) :: (l.text.drop i).take (m.start - i) :: parts, m.start + m.length))
      (([] : List Octets), 0)
    lead s f mark l.number l.offset l.text ++ parts.reverse.flatten ++ l.text.drop i ++ [s.stop]

/-! ## One line after another -/

/-- How far the search in a file has come. -/
structure Progress where
  number : Nat := 0
  offset : Nat := 0
  found : Nat := 0
  left : Option Nat := none
  /-- How many more lines are shown because they follow a selected one. -/
  pending : Nat := 0
  /-- Lines that are shown if one behind them is selected, the last one first. -/
  recent : List Line := []
  /-- Whether a line of this file was shown, and the number of the last one. -/
  lastShown : Option Nat := none
  /-- Whether any line was shown, of this file or of one before. -/
  used : Bool := false
  /-- How many lines had been selected when bytes were found that are no text. -/
  foundAsText : Option Nat := none
  /-- How many bytes stand up to the end of the last selected line. -/
  usedBytes : Nat := 0
  /-- How many bytes have been read. -/
  taken : Nat := 0
  out : List Octets := []

namespace Progress

def isBinary (p : Progress) : Bool := p.foundAsText.isSome

def put (p : Progress) (o : Octets) : Progress := { p with out := o :: p.out }

/-- Whether nothing more can come of the search. -/
def isDone (s : Style) (p : Progress) : Bool :=
  let atFirst := match s.showing with
    | .lines => p.isBinary
    | .count => false
    | _ => true
  (p.left == some 0 && p.pending == 0) || (atFirst && p.foundAsText.getD 0 < p.found)

/-- Show a selected line, and what stands around it. -/
def select (s : Style) (f : Subject) (p : Progress) (l : Line) : Progress :=
  let p := { p with found := p.found + 1, left := p.left.map (· - 1), usedBytes := l.offset + l.text.length + 1 }
  if !s.showsLines || p.isBinary then p
  else
    let around := (p.recent.take s.before).reverse
    let start := (around.head?.map (·.number)).getD l.number
    let isApart := p.used && (p.lastShown.map fun n => n != start - 1).getD true
    let gap : Octets := if isApart then (s.separator.map fun o => colored s "36" o ++ ['\n']).getD [] else []
    let text := gap ++ around.flatMap (shown s f false) ++ shown s f true l
    { p.put text with recent := [], lastShown := some l.number, used := true, pending := s.after }

def pass (s : Style) (f : Subject) (p : Progress) (l : Line) : Progress :=
  if p.pending > 0 then
    { p.put (shown s f false l) with pending := p.pending - 1, lastShown := some l.number }
  else if s.before > 0 then { p with recent := l :: p.recent.take (s.before - 1) }
  else p

def step (s : Style) (f : Subject) (p : Progress) (line : Octets) : Progress :=
  if p.isDone s then p
  else
    let l : Line := ⟨p.number + 1, p.offset, line⟩
    let isSelected := p.left != some 0 && s.selects line
    let p := if isSelected then p.select s f l else p.pass s f l
    { p with number := p.number + 1, offset := p.offset + line.length + 1 }

/-- Write what has come together. -/
def write (s : Style) (p : Progress) : ShellM Progress := do
  let all := p.out.reverse.flatten
  if s.atOnce then
    if all ≠ [] then emitNow all
  else emit all
  return { p with out := [] }

end Progress

/-- Search what can be read from a descriptor. Bytes that are no text end lines where the file has some. What is
not needed can be read again if the search was for so many lines. -/
def searchStream (s : Style) (f : Subject) (used : Bool) (n : Nat) : ShellM (Except OsError Progress) := do
  let handle (state : Progress × Octets) (block : Octets) : ShellM ((Progress × Octets) × Bool) := do
    let (p, rest) := state
    let p := { p with taken := p.taken + block.length }
    let turns := !p.isBinary && s.stop != '\x00' && s.binary != .asText && block.contains '\x00'
    if turns && s.binary == .withoutMatch then return (({ p with found := 0 }, []), true)
    else
      let p := if turns then { p with foundAsText := some p.found } else p
      let zap (o : Octets) : Octets := if p.isBinary then o.map fun c => if c = '\x00' then s.stop else c else o
      let (lines, rest) := wholeLines s.stop (zap rest ++ zap block)
      let p := lines.foldl (fun p (l, _) => p.step s f l) p
      let p ← p.write s
      return ((p, if p.isDone s then [] else rest), p.isDone s)
  let start : Progress := { left := s.limit, used }
  match ← eachBlock n handle maxBlocks (start, []) with
  | .error e => return .error e
  | .ok (p, rest) =>
    let p := if rest = [] then p else p.step s f rest
    let p ← p.write s
    if p.left = some 0 then unreadBytes n (p.taken - p.usedBytes)
    return .ok p

end KarelBuild.Shell.Utility.Search
