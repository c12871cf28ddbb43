import KarelBuild.Shell.Regex.Reading
import KarelBuild.Shell.Utility.Comparing.Aligning

/-!
# How changes are shown

Changes between two files are shown as commands of a line editor, with the lines around them, or in two
columns.
-/

namespace KarelBuild.Shell.Utility.Comparing

/-- The ways to show changes. -/
inductive ReportForm where
  | normal
  | editor
  | forwardEditor
  | counted
  | context
  | unified
  | columns
  deriving DecidableEq, Repr

/-- How changes are shown. -/
structure ReportStyle where
  form : ReportForm := .normal
  /-- How many lines stand around changes. -/
  around : Nat := 3
  tabbed : Bool := false
  expands : Bool := false
  tabSize : Nat := 8
  bareBlanks : Bool := false
  width : Nat := 130
  leftOnly : Bool := false
  changedOnly : Bool := false
  /-- Lines that head the part of the file behind them. -/
  heading : Option Regex := none

/-- What is compared: the lines of both files with their ends, and the changes between them, each with
whether it does not count. -/
structure Comparison where
  left : Array Octets
  right : Array Octets
  changes : List (Change × Bool)

namespace ReportStyle

/-- A line where tabs are widened; after a return the mark at its front is shown again. -/
def widened (s : ReportStyle) (lead : Octets) (line : Octets) : Octets :=
  (line.foldl step ([], 0)).1.reverse
where
  step : Octets × Nat → Char → Octets × Nat
    | (back, column), c =>
      if c = '\t' then
        let n := s.tabSize - column % s.tabSize
        (List.replicate n ' ' ++ back, column + n)
      else if c = '\r' then (lead.reverse ++ c :: back, 0)
      else if c = '\x08' then if column = 0 then (back, 0) else (c :: back, column - 1)
      else (c :: back, if ' ' ≤ c ∧ c ≤ '~' then column + 1 else column)

/-- A line behind its mark, which may be empty. -/
def line (s : ReportStyle) (mark : Octets) (tellsEnd : Bool) (l : Octets) : Octets :=
  let isBare := s.bareBlanks && l == ['\n']
  let lead := if mark = [] then []
    else if isBare then (if mark = [' '] then [] else mark)
    else mark ++ [if s.tabbed then '\t' else ' ']
  lead ++ (if s.expands then s.widened lead l else l) ++
    if tellsEnd ∧ l.getLast? ≠ some '\n' then "\n\\ No newline at end of file\n".toList else []

/-- A line of a unified report, whose mark stands directly before it. -/
def unifiedLine (s : ReportStyle) (mark : Char) (l : Octets) : Octets :=
  let isBare := s.bareBlanks && l == ['\n']
  let lead := if mark = ' ' then (if isBare then [] else [if s.tabbed then '\t' else ' '])
    else if s.tabbed && !isBare then [mark, '\t'] else [mark]
  lead ++ s.line [] true l

end ReportStyle

/-- The numbers of lines from one on; for none, the line before. -/
def lineRange (separator : Char) (start count : Nat) : Octets :=
  if count ≤ 1 then Text.ofNat (start + count) else Text.ofNat (start + 1) ++ separator :: Text.ofNat (start + count)

def unifiedRange (start count : Nat) : Octets :=
  if count = 0 then Text.ofNat start ++ ",0".toList
  else if count = 1 then Text.ofNat (start + 1)
  else Text.ofNat (start + 1) ++ ',' :: Text.ofNat count

namespace Change

/-- The command that makes a change. -/
def letter (c : Change) : Char := if c.deleted = 0 then 'a' else if c.inserted = 0 then 'd' else 'c'

def deletedIn (c : Change) (lines : Array Octets) : List Octets := (lines.extract c.start c.stop).toList

def insertedIn (c : Change) (lines : Array Octets) : List Octets := (lines.extract c.start' c.stop').toList

end Change

namespace Comparison

variable (k : Comparison) (s : ReportStyle)

/-- The changes that count. -/
def counting : List Change := k.changes.filterMap fun (c, isIdle) => if isIdle then none else some c

def normalChange (c : Change) : Octets :=
  lineRange ',' c.start c.deleted ++ c.letter :: lineRange ',' c.start' c.inserted ++ ['\n'] ++
    (c.deletedIn k.left).flatMap (s.line ['<'] true) ++
    (if c.letter = 'c' then "---\n".toList else []) ++ (c.insertedIn k.right).flatMap (s.line ['>'] true)

/-- Lines that are put in by an editor; one that is only a dot would end them, so it is put in as two. -/
def insertedText (s : ReportStyle) : (inserting : Bool) → List Octets → Octets
  | inserting, [] => if inserting then ".\n".toList else []
  | inserting, l :: rest =>
    let lead := if inserting then [] else "a\n".toList
    if l = ".\n".toList then lead ++ "..\n.\ns/.//\n".toList ++ insertedText s false rest
    else lead ++ s.line [] false l ++ insertedText s true rest

def editorChange (c : Change) : Octets :=
  lineRange ',' c.start c.deleted ++ [c.letter, '\n'] ++
    if c.inserted = 0 then [] else insertedText s true (c.insertedIn k.right)

def forwardChange (c : Change) : Octets :=
  c.letter :: lineRange ' ' c.start c.deleted ++ ['\n'] ++
    if c.inserted = 0 then []
    else (c.insertedIn k.right).flatMap (s.line [] false) ++ ".\n".toList

def countedChange (c : Change) : Octets :=
  (if c.deleted = 0 then []
    else 'd' :: Text.ofNat (c.start + 1) ++ ' ' :: Text.ofNat c.deleted ++ ['\n']) ++
    if c.inserted = 0 then []
    else 'a' :: Text.ofNat c.stop ++ ' ' :: Text.ofNat c.inserted ++ '\n' ::
      (c.insertedIn k.right).flatMap (s.line [] false)

/-! ## Changes with lines around them -/

/-- Changes that are near each other. One that does not count has to be nearer. -/
def groups (around : Nat) : List (Change × Bool) → List (List (Change × Bool))
  | [] => []
  | c :: rest =>
    match groups around rest with
    | (d :: ds) :: more =>
      if d.1.start - c.1.stop < (if d.2 then around else 2 * around + 1) then (c :: d :: ds) :: more
      else [c] :: (d :: ds) :: more
    | more => [c] :: more

/-- The part of both files that a group of changes is shown in. -/
structure Extent where
  start : Nat
  stop : Nat
  start' : Nat
  stop' : Nat

def extentOf (cs : List Change) : Extent :=
  match cs.head?, cs.getLast? with
  | some first, some last =>
    ⟨first.start - s.around, min k.left.size (last.stop + s.around),
      first.start' - s.around, min k.right.size (last.stop' + s.around)⟩
  | _, _ => ⟨0, 0, 0, 0⟩

/-- The last heading before a line. -/
def headingBefore (n : Nat) : Octets :=
  match s.heading with
  | none => []
  | some r =>
    match ((k.left.extract 0 n).toList.reverse).find? fun l => (r.search (l.filter (· != '\n'))).isSome with
    | none => []
    | some l =>
      let isBlank (c : Char) : Bool := c = ' ' || ('\t' ≤ c && c ≤ '\r')
      let text := (l.dropWhile isBlank).takeWhile (· != '\n')
      ' ' :: ((text.take 40).reverse.dropWhile isBlank).reverse

def unifiedGroup (cs : List Change) : Octets :=
  let e := k.extentOf s cs
  let same (i j : Nat) : Octets := (k.left.extract i j).toList.flatMap (s.unifiedLine ' ')
  let (parts, i) := cs.foldl (fun (parts, i) c =>
    let text := same i c.start ++ (c.deletedIn k.left).flatMap (s.unifiedLine '-') ++
      (c.insertedIn k.right).flatMap (s.unifiedLine '+')
    (text :: parts, c.stop)) (([] : List Octets), e.start)
  "@@ -".toList ++ unifiedRange e.start (e.stop - e.start) ++ " +".toList ++
    unifiedRange e.start' (e.stop' - e.start') ++ " @@".toList ++ k.headingBefore s e.start ++ ['\n'] ++
    parts.reverse.flatten ++ same i e.stop

def contextGroup (cs : List Change) : Octets :=
  let e := k.extentOf s cs
  let marked (mark : Char) (l : Octets) : Octets := s.line [mark] true l
  let same (lines : Array Octets) (i j : Nat) : Octets := (lines.extract i j).toList.flatMap (marked ' ')
  let (before, i) := cs.foldl (fun (parts, i) c =>
    let text := same k.left i c.start ++
      (c.deletedIn k.left).flatMap (marked (if c.inserted > 0 then '!' else '-'))
    (text :: parts, c.stop)) (([] : List Octets), e.start)
  let (after, j) := cs.foldl (fun (parts, j) c =>
    let text := same k.right j c.start' ++
      (c.insertedIn k.right).flatMap (marked (if c.deleted > 0 then '!' else '+'))
    (text :: parts, c.stop')) (([] : List Octets), e.start')
  "***************".toList ++ k.headingBefore s e.start ++ "\n*** ".toList ++
    lineRange ',' e.start (e.stop - e.start) ++ " ****\n".toList ++
    (if cs.all (·.deleted = 0) then [] else before.reverse.flatten ++ same k.left i e.stop) ++
    "--- ".toList ++ lineRange ',' e.start' (e.stop' - e.start') ++ " ----\n".toList ++
    if cs.all (·.inserted = 0) then [] else after.reverse.flatten ++ same k.right j e.stop'

/-! ## Columns -/

/-- Blanks and tabs from a column to another. -/
def gap (s : ReportStyle) (start stop : Nat) : Octets :=
  if s.expands then List.replicate (stop - start) ' '
  else
    let tabs := stop / s.tabSize - start / s.tabSize
    let reached := if tabs = 0 then start else stop / s.tabSize * s.tabSize
    List.replicate tabs '\t' ++ List.replicate (stop - reached) ' '

/-- A line as far as it fits into a column, and the width that it takes. -/
structure HalfLine where
  back : Octets := []
  column : Nat := 0
  width : Nat := 0

def halfStep (s : ReportStyle) (indent bound : Nat) (h : HalfLine) (c : Char) : HalfLine :=
  if c = '\t' then
    let spaces := s.tabSize - h.column % s.tabSize
    let next := h.width + spaces
    let h' := { h with column := h.column + spaces }
    if h.column ≠ h.width then h'
    else if s.expands then
      let next := min bound next
      { h' with back := List.replicate (next - h.width) ' ' ++ h.back, width := max h.width next }
    else if next < bound then { h' with back := c :: h.back, width := next }
    else h'
  else if c = '\r' then ⟨(gap s 0 indent).reverse ++ c :: h.back, 0, 0⟩
  else if c = '\n' then h
  else if ' ' ≤ c ∧ c ≤ '~' then
    if h.column < bound then ⟨c :: h.back, h.column + 1, h.column + 1⟩ else { h with column := h.column + 1 }
  else if h.column < bound then { h with back := c :: h.back }
  else h

def halfLine (s : ReportStyle) (indent bound : Nat) (l : Octets) : Octets × Nat :=
  let h := l.foldl (halfStep s indent bound) {}
  (h.back.reverse, h.width)

/-- How wide a column is, and where the second one begins. -/
def columnsOf (s : ReportStyle) : Nat × Nat :=
  let t := if s.expands then 1 else s.tabSize
  let sum := t + 3
  let start := s.width / 2 + sum / 2 + (if s.width % 2 = 1 ∧ sum % 2 = 1 then 1 else 0)
  let start := start - start % t
  let half := min (start - 3) (s.width - start)
  (half, if half = 0 then s.width else start)

def isEnded (l : Octets) : Bool := l.getLast? == some '\n'

def row (s : ReportStyle) (left : Option Octets) (mark : Char) (right : Option Octets) : Octets :=
  let (half, second) := columnsOf s
  let (text, column) := (left.map (halfLine s 0 half)).getD ([], 0)
  let endsLeft := left.any isEnded
  let (middle, column) :=
    if mark = ' ' then ([], column)
    else
      let place := (half + second - 1) / 2
      let isUneven := mark = '|' ∧ right.any fun r => isEnded r != endsLeft
      let mark := if isUneven then (if endsLeft then '/' else '\\') else mark
      (gap s column place ++ [mark], max column place + 1)
  let tail := match right with
    | none => []
    | some r =>
      if r = ['\n'] then [] else gap s column second ++ (halfLine s second half r).1
  text ++ middle ++ tail ++ if endsLeft || right.any isEnded then ['\n'] else []

def commonRows (i i' j j' : Nat) : Octets :=
  if s.changedOnly then []
  else
    let left := (k.left.extract i i').toList
    let right := (k.right.extract j j').toList
    let both := left.zip right
    if s.leftOnly then left.flatMap fun l => row s (some l) '(' none
    else both.flatMap (fun (a, b) => row s (some a) ' ' (some b)) ++
      (right.drop both.length).flatMap (fun r => row s none ')' (some r)) ++
      (left.drop both.length).flatMap fun l => row s (some l) '(' none

def changedRows (left right : List Octets) : Octets :=
  let both := (left.zip right).flatMap fun (a, b) => row s (some a) '|' (some b)
  both ++ (right.drop left.length).flatMap (fun r => row s none '>' (some r)) ++
    (left.drop right.length).flatMap fun l => row s (some l) '<' none

def columns : Octets :=
  let (parts, i, j) := k.counting.foldl (fun (parts, i, j) c =>
    let text := k.commonRows s i c.start j c.start' ++
      changedRows s (c.deletedIn k.left) (c.insertedIn k.right)
    (text :: parts, c.stop, c.stop')) (([] : List Octets), 0, 0)
  parts.reverse.flatten ++ k.commonRows s i k.left.size j k.right.size

/-- The changes as they are shown. -/
def report : Octets :=
  let grouped (show_ : List Change → Octets) : Octets :=
    (groups s.around k.changes).flatMap fun cs =>
      if cs.all Prod.snd then [] else show_ (cs.map Prod.fst)
  match s.form with
  | .normal => k.counting.flatMap (k.normalChange s)
  | .editor => k.counting.reverse.flatMap (k.editorChange s)
  | .forwardEditor => k.counting.flatMap (k.forwardChange s)
  | .counted => k.counting.flatMap (k.countedChange s)
  | .unified => grouped (k.unifiedGroup s)
  | .context => grouped (k.contextGroup s)
  | .columns => k.columns s

end Comparison

end KarelBuild.Shell.Utility.Comparing
