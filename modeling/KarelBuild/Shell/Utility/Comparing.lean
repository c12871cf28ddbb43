import KarelBuild.Shell.Utility.Comparing.Bytes
import KarelBuild.Shell.Utility.Comparing.Reports
import KarelBuild.Shell.Utility.Describing
import KarelBuild.Shell.Utility.Versions

/-!
# Comparing files

`diff` shows the lines that would have to be changed to make one file into another, and goes through
directories in the same way.
-/

namespace KarelBuild.Shell.Utility.Comparing

open ShellM

/-! ## When lines are equal -/

/-- How blanks count where lines are compared: tabs are as good as the blanks up to the same column, those at
the end do not count, their number does not count, or none of them do. -/
inductive Blanks where
  | exact
  | byColumn
  | noneAtEnd
  | anyNumber
  | dropped
  deriving DecidableEq, Repr

def Blanks.dropsEnd : Blanks → Bool
  | .exact => false
  | .byColumn => false
  | _ => true

/-- What counts as a difference. -/
structure Difference where
  blanks : Blanks := .exact
  ignoresCase : Bool := false
  ignoresEmpty : Bool := false
  ignored : List Regex := []
  joinsReturns : Bool := false
  asText : Bool := false

namespace Difference

def isBlank (c : Char) : Bool := c = ' ' || ('\t' ≤ c && c ≤ '\r')

/-- Whether files are equal only if all of their bytes are. -/
def isPlain (d : Difference) : Bool :=
  d.blanks == .exact && !d.ignoresCase && !d.ignoresEmpty && d.ignored.isEmpty && !d.joinsReturns

/-- A line with single blanks for several. -/
def singleBlanks : Octets → Octets
  | [] => []
  | c :: r => if isBlank c then ' ' :: singleBlanks (r.dropWhile isBlank) else c :: singleBlanks r
termination_by o => o.length
decreasing_by
  · have := (List.dropWhile_suffix isBlank (l := r)).length_le
    simp; omega
  · simp

def withoutEnd (o : Octets) : Octets := (o.reverse.dropWhile isBlank).reverse

/-- What lines that count as equal have in common. -/
def key (d : Difference) (tabSize : Nat) (line : Octets) : Octets :=
  let line := if d.ignoresCase then line.map Char.toLower else line
  let isEnded := line.getLast? = some '\n'
  let text := if isEnded then line.dropLast else line
  let columns (o : Octets) : Octets := ({ tabSize } : ReportStyle).widened [] o
  let finish (o : Octets) : Octets := if isEnded ∧ !d.blanks.dropsEnd then o ++ ['\n'] else o
  finish <| match d.blanks with
    | .exact => text
    | .byColumn => columns text
    | .noneAtEnd => withoutEnd text
    | .anyNumber => singleBlanks (withoutEnd text)
    | .dropped => text.filter (!isBlank ·)

/-- Whether a line that is changed does not count. -/
def isIdle (d : Difference) (line : Octets) : Bool :=
  let text := if line.getLast? = some '\n' then line.dropLast else line
  let rest := if d.blanks.dropsEnd && text.all isBlank then [] else text
  (d.ignoresEmpty && rest.isEmpty) || d.ignored.any fun r => (r.search text).isSome

end Difference

/-- The classes of items with the same key. -/
def classesOf (left right : List Octets) : Sequences :=
  let n := left.length
  let keyed := (left ++ right).zipIdx.mergeSort fun a b => compareText a.1 b.1 != .gt
  let (classes, _, _) := keyed.foldl (fun (classes, last, k) (key, i) =>
    let k := if last = some key then k else k + 1
    (classes.setIfInBounds i k, some key, k))
    (Array.replicate keyed.length 0, (none : Option Octets), 0)
  ⟨classes.extract 0 n, classes.extract n classes.size⟩

/-- Lines with their ends. -/
def linesWithEnds (o : Octets) : List Octets :=
  let (lines, rest) := wholeLines '\n' o
  lines.map (fun (l, _) => l ++ ['\n']) ++ if rest = [] then [] else [rest]

/-! ## Files -/

/-- What a comparison is asked for. -/
structure DiffRequest where
  difference : Difference := {}
  style : ReportStyle := {}
  horizon : Nat := 0
  brief : Bool := false
  tellsSame : Bool := false
  deep : Bool := false
  followsLinks : Bool := true
  /-- Files that are missing count as empty, on both sides or only on the first. -/
  missingAreEmpty : Bool := false
  missingFirstAreEmpty : Bool := false
  labels : List Octets := []
  excluded : List Octets := []
  startName : Option Octets := none
  /-- The options as they were given, for the headers in directories. -/
  options : List Octets := []

/-- A name in a header: in quotes if there are blanks or other special characters in it. -/
def headerName (name : Octets) : Octets :=
  let isPlain (c : Char) : Bool := '!' ≤ c && c ≤ '~' && c != '"' && c != '\\'
  let escape (c : Char) : Octets :=
    if c = '"' ∨ c = '\\' then ['\\', c]
    else match [('\x07', 'a'), ('\x08', 'b'), ('\t', 't'), ('\n', 'n'), ('\x0b', 'v'), ('\x0c', 'f'),
        ('\r', 'r')].lookup c with
      | some letter => ['\\', letter]
      | none => if isPlain c ∨ c = ' ' then [c] else octalDigits c
  if name.all isPlain then name else '"' :: name.flatMap escape ++ ['"']

/-- A side of a comparison: its name, and what is known of it unless it is missing. -/
structure DiffSide where
  name : Octets
  status : Option Status

namespace DiffSide

def isDir (s : DiffSide) : Bool := s.status.any (·.kind == .dir)

end DiffSide

def timeOfHeader (form : ReportForm) (s : DiffSide) : ShellM Octets := do
  let time := (s.status.map (·.time)).getD 0
  let time ← if s.name = ['-'] then do pure (← world).now else pure time
  return formatDate time (if form = .context then "%a %b %e %T %Y" else "%Y-%m-%d %H:%M:%S.%N %z").toList

/-- The lines in front of a report. -/
def reportHeader (q : DiffRequest) (depth : Nat) (a b : DiffSide) : ShellM Octets := do
  let command := if depth = 0 then [] else
    "diff".toList ++ q.options.flatMap (fun o => ' ' :: shellWord o) ++ ' ' :: headerName a.name ++
      ' ' :: headerName b.name ++ ['\n']
  let side (lead : String) (label : Option Octets) (s : DiffSide) : ShellM Octets := do
    match label with
    | some l => return lead.toList ++ l ++ ['\n']
    | none => return lead.toList ++ headerName s.name ++ '\t' :: (← timeOfHeader q.style.form s) ++ ['\n']
  match q.style.form with
  | .unified => return command ++ (← side "--- " q.labels[0]? a) ++ (← side "+++ " q.labels[1]? b)
  | .context => return command ++ (← side "*** " q.labels[0]? a) ++ (← side "--- " q.labels[1]? b)
  | _ => return command

def labelledName (q : DiffRequest) (i : Nat) (s : DiffSide) : Octets := (q.labels[i]?).getD s.name

/-- Tell of two files. -/
def tellBoth (q : DiffRequest) (lead : String) (a b : DiffSide) (tail : String) : ShellM Unit :=
  emit (lead.toList ++ labelledName q 0 a ++ " and ".toList ++ labelledName q 1 b ++ tail.toList ++ ['\n'])

def joinReturns : Octets → Octets
  | '\r' :: '\n' :: r => '\n' :: joinReturns r
  | c :: r => c :: joinReturns r
  | [] => []

/-- Compare what is in two files; the exit code. -/
def diffTexts (q : DiffRequest) (depth : Nat) (a b : DiffSide) (s t : Octets) : ShellM Nat := do
  let d := q.difference
  let isBinary (o : Octets) : Bool := !d.asText && (o.take 0x1000).contains '\x00'
  let showsAll := q.style.form == .columns && !q.style.changedOnly
  if isBinary s || isBinary t || (q.brief && d.isPlain) then
    if s = t then return 0
    else
      if q.brief then tellBoth q "Files " a b " differ" else tellBoth q "Binary files " a b " differ"
      return 1
  else
    let isEditor := q.style.form == .editor || q.style.form == .forwardEditor
    let s := if d.joinsReturns then joinReturns s else s
    let t := if d.joinsReturns then joinReturns t else t
    let lacksEnd (o : Octets) : Bool := o != [] && o.getLast? != some '\n'
    let ended (o : Octets) : Octets := if isEditor && lacksEnd o then o ++ ['\n'] else o
    let left := linesWithEnds (ended s)
    let right := linesWithEnds (ended t)
    let sequences := classesOf (left.map (d.key q.style.tabSize)) (right.map (d.key q.style.tabSize))
    let left := left.toArray
    let right := right.toArray
    let changes := sequences.changesWithin (fun i j => left[i]? == right[j]?) q.horizon
    let isIdle (c : Change) : Bool := (d.ignoresEmpty || !d.ignored.isEmpty) &&
      ((c.deletedIn left).all d.isIdle && (c.insertedIn right).all d.isIdle)
    let k : Comparison := ⟨left, right, changes.map fun c => (c, isIdle c)⟩
    let differs := k.counting != []
    if q.brief then
      if differs then tellBoth q "Files " a b " differ"
    else if differs || showsAll then
      emit ((← reportHeader q depth a b) ++ k.report q.style)
    let mut code := if differs then 1 else 0
    if isEditor then
      for (o, side) in [(s, a), (t, b)] do
        if lacksEnd o then
          grumble (side.name ++ ": No newline at end of file\n".toList)
          code := 2
    return code

/-- Read both files and compare them. -/
def diffFiles (q : DiffRequest) (depth : Nat) (a b : DiffSide) : ShellM Nat := do
  let openSide (s : DiffSide) : ShellM (Except OsError (Option Nat)) := do
    if s.status.isNone then return .ok none
    else if s.name = ['-'] then return .ok (some ((← lookUpStdin).getD 0))
    else
      match ← openOperand s.name with
      | .ok n => return .ok (some n)
      | .error e =>
        grumble (s.name ++ ": ".toList ++ e.wording.toList)
        return .error e
  let x ← openSide a
  let y ← openSide b
  match x, y with
  | .ok x, .ok y =>
    let s ← readSide a x
    let t ← if a.name = ['-'] ∧ b.name = ['-'] then pure s else readSide b y
    diffTexts q depth a b s t
  | _, _ => return 2
where
  lookUpStdin : ShellM (Option Nat) := do return (← shell).opened? 0
  readSide (s : DiffSide) (n : Option Nat) : ShellM Octets := do
    let fail (e : OsError) : ShellM Octets := stop 2 (s.name ++ ": ".toList ++ e.wording.toList)
    if s.name = ['-'] && (← lookUpStdin).isNone then fail .badDescriptor
    else
      match n with
      | none => return []
      | some n =>
        match ← takeAll n with
        | .ok (.text o) => return o
        | .ok (.endless _) => return []
        | .error e => fail e

/-- The names in a directory in order, apart from those that are left out. -/
def namesWithin (q : DiffRequest) (depth : Nat) (s : DiffSide) : ShellM (List Octets) := do
  if s.status.isNone then return []
  else
    match ← stat? s.name with
    | .error _ => return []
    | .ok (place, _) =>
      let names := ((← world).tree.children place).map fun (n, _) => Octets.ofText n
      let isExcluded (n : Octets) : Bool := q.excluded.any fun p =>
        Pattern.isMatch (Pattern.items true (p.map (·, true))) n
      let isEarly (n : Octets) : Bool := depth = 0 && q.startName.any fun start => compareText n start == .lt
      return (names.filter fun n => !isExcluded n && !isEarly n).mergeSort fun x y => compareText x y != .gt

/-- What a file is called where files of different kinds are compared. -/
def kindOfSide (s : DiffSide) : Octets := ((s.status.map kindName).getD "").toList

/-- Each of a sorted list of names once. -/
def eachOnce (names : List Octets) : List Octets :=
  (names.foldl (fun (back : List Octets) n => if back.head? = some n then back else n :: back) []).reverse

/-- What is known of a file, if there is one; complains of what cannot be found out. -/
def sideBelow (q : DiffRequest) (dir : DiffSide) (names : List Octets) (n : Octets) :
    ShellM (Option DiffSide) := do
  let path := below dir.name n
  if !names.contains n then return some ⟨path, none⟩
  else
    match ← status? q.followsLinks path with
    | .ok f => return some ⟨path, some f⟩
    | .error e =>
      grumble (path ++ ": ".toList ++ e.wording.toList)
      return none

/-- Tell that files are of different kinds. -/
def tellKinds (q : DiffRequest) (a b : DiffSide) : ShellM Unit :=
  emit ("File ".toList ++ labelledName q 0 a ++ " is a ".toList ++ kindOfSide a ++ " while file ".toList ++
    labelledName q 1 b ++ " is a ".toList ++ kindOfSide b ++ ['\n'])

/-- Compare two files or directories; the exit code. `parents` are the directories that they are in. -/
def diffSides (q : DiffRequest) : (fuel depth : Nat) → (parents : Option (Octets × Octets)) → (name : Octets) →
    DiffSide → DiffSide → ShellM Nat
  | 0, _, _, _, _, _ => return 2
  | fuel + 1, depth, parents, name, a, b => do
    let isMissing := a.status.isNone || b.status.isNone
    let missingCount := q.missingAreEmpty || (q.missingFirstAreEmpty && a.status.isNone)
    let kind (s other : DiffSide) : Option Kind := (s.status <|> other.status).map (·.kind)
    let kinds := [kind a b, kind b a]
    let tellOnly : ShellM Nat := do
      let (first, second) := parents.getD ([], [])
      emit ("Only in ".toList ++ (if a.status.isNone then second else first) ++ ": ".toList ++ name ++ ['\n'])
      return 1
    let isOne : Bool := match a.status, b.status with
      | some f, some g => a.name == b.name || (f.node == g.node && f.kind == g.kind && f.kind != .pipe)
      | _, _ => false
    let code ←
      if isMissing && parents.isSome && !missingCount then tellOnly
      else if isOne && !(q.style.form == .columns && !q.style.changedOnly) then pure 0
      else if kinds.all (· == some .dir) then
        if depth > 0 && !q.deep then do
          emit ("Common subdirectories: ".toList ++ a.name ++ " and ".toList ++ b.name ++ ['\n'])
          pure 0
        else do
          let xs ← namesWithin q depth a
          let ys ← namesWithin q depth b
          let all := eachOnce ((xs ++ ys).mergeSort fun x y => compareText x y != .gt)
          all.foldlM (fun code n => do
            match ← sideBelow q a xs n, ← sideBelow q b ys n with
            | some x, some y => return max code (← diffSides q fuel (depth + 1) (some (a.name, b.name)) n x y)
            | _, _ => return 2) 0
      else if kinds.contains (some .dir) || (depth > 0 && !kinds.all fun k => k == some .file || k == some .link) then
        if isMissing then tellOnly
        else do
          tellKinds q a b
          pure 1
      else if !q.followsLinks && kinds.contains (some .link) then
        if kinds.all (· == some .link) then
          if !isMissing && a.status.map (·.target) == b.status.map (·.target) then pure 0
          else do
            tellBoth q "Symbolic links " a b " differ"
            pure 1
        else do
          tellKinds q a b
          pure 1
      else diffFiles q depth a b
    if code = 0 && q.tellsSame && !a.isDir then tellBoth q "Files " a b " are identical"
    return code

/-- Compare two operands. -/
def diffOperands (q : DiffRequest) (a b : Octets) : ShellM Nat := do
  let find (name : Octets) : ShellM (Except OsError Status) := do
    if name = ['-'] then
      match (← world).statusOfDescriptor? (← shell) 0 with
      | some f => return .ok f
      | none => status? true "/dev/null".toList
    else status? q.followsLinks name
  let x ← find a
  let y ← find b
  let isAbsent (own other : Except OsError Status) (counts : Bool) : Bool := match own, other with
    | .error e, .ok _ => counts && e == .noEntry
    | _, _ => false
  let absent := [isAbsent x y (q.missingAreEmpty || q.missingFirstAreEmpty), isAbsent y x q.missingAreEmpty]
  let mut failed := false
  for (name, found, isAbsent) in [(a, x, absent.headD false), (b, y, absent.getD 1 false)] do
    match found with
    | .error e =>
      if !isAbsent then
        grumble (name ++ ": ".toList ++ e.wording.toList)
        failed := true
    | .ok _ => pure ()
  if failed then return 2
  let side (name : Octets) (found : Except OsError Status) : DiffSide := ⟨name, found.toOption⟩
  let s := side a x
  let t := side b y
  let within (dir file : DiffSide) : ShellM DiffSide := do
    if file.name = ['-'] then stop 2 "cannot compare '-' to a directory".toList
    else
      let path := below dir.name (lastName file.name)
      match ← status? q.followsLinks path with
      | .ok f => return ⟨path, some f⟩
      | .error e => stop 2 (path ++ ": ".toList ++ e.wording.toList)
  if s.status.isNone || t.status.isNone || s.isDir == t.isDir then diffSides q maxDepth 0 none [] s t
  else if s.isDir then diffSides q maxDepth 0 none [] (← within s t) t
  else diffSides q maxDepth 0 none [] s (← within t s)

/-! ## Options -/

def diffForms : List OptionForm :=
  forms [('q', "brief"), ('s', "report-identical-files"), ('u', ""), ('c', ""), ('e', "ed"), ('f', "forward-ed"),
    ('n', "rcs"), ('y', "side-by-side"), ('\x01', "normal"), ('\x02', "left-column"),
    ('\x03', "suppress-common-lines"), ('p', "show-c-function"), ('t', "expand-tabs"), ('T', "initial-tab"),
    ('\x04', "suppress-blank-empty"), ('r', "recursive"), ('\x05', "no-dereference"), ('N', "new-file"),
    ('P', "unidirectional-new-file"), ('\x06', "ignore-file-name-case"), ('\x06', "no-ignore-file-name-case"),
    ('i', "ignore-case"), ('E', "ignore-tab-expansion"), ('Z', "ignore-trailing-space"),
    ('b', "ignore-space-change"), ('w', "ignore-all-space"), ('B', "ignore-blank-lines"), ('a', "text"),
    ('\x07', "strip-trailing-cr"), ('d', "minimal"), ('H', "speed-large-files"), ('0', ""), ('1', ""), ('2', ""),
    ('3', ""), ('4', ""), ('5', ""), ('6', ""), ('7', ""), ('8', ""), ('9', "")]
    [('C', ""), ('U', ""), ('W', "width"), ('F', "show-function-line"), ('x', "exclude"), ('X', "exclude-from"),
      ('S', "starting-file"), ('I', "ignore-matching-lines"), ('L', "label"), ('\x0e', "tabsize"),
      ('\x0f', "horizon-lines"), ('\x10', "from-file"), ('\x11', "to-file")] ++
    [⟨'\x12', "context", .maybe⟩, ⟨'\x13', "unified", .maybe⟩, ⟨'\x14', "color", .maybe⟩]

/-- The form that an option asks for. -/
def formOf? (c : Char) : Option ReportForm :=
  [('u', .unified), ('U', .unified), ('\x13', .unified), ('c', .context), ('C', .context), ('\x12', .context),
    ('e', .editor), ('f', .forwardEditor), ('n', .counted), ('y', .columns), ('\x01', .normal)].lookup c

def numberGiven (what : String) (v : Octets) : ShellM Nat := do
  if isNumber v then return digitsValue v else misuse 2 ("invalid ".toList ++ what.toList ++ " '".toList ++ v ++ ['\''])

/-- The form of the report; options that ask for different ones exclude each other. -/
def formGiven (g : Given) : ShellM ReportForm := do
  match eachForm (g.options.filterMap fun o => formOf? o.1) with
  | [] => return if g.has 'p' then .context else .normal
  | [form] => return form
  | _ => misuse 2 "conflicting output style options".toList
where
  eachForm (fs : List ReportForm) : List ReportForm :=
    fs.foldl (fun (all : List ReportForm) f => if all.contains f then all else all ++ [f]) []

/-- How many lines stand around changes: the most that is asked for. -/
def aroundGiven (g : Given) : ShellM Nat := do
  let given ← g.options.filterMapM fun (c, v) => do
    if c = 'C' ∨ c = 'U' ∨ ((c = '\x12' ∨ c = '\x13') ∧ v ≠ []) then
      return some (← numberGiven "context length" v)
    else if c = 'c' ∨ c = 'u' ∨ c = '\x12' ∨ c = '\x13' then return some 3
    else return none
  let isExact := g.options.any fun (c, v) => c = 'C' || c = 'U' || ((c = '\x12' || c = '\x13') && v != [])
  let most := given.foldl max 0
  let most := if given = [] then 3 else most
  let digits := (g.options.map Prod.fst).filter Char.isDigit
  if digits = [] then return most
  else
    let n := digitsValue digits
    return if most < n ∨ !isExact then n else most

def regexesGiven (g : Given) (c : Char) : ShellM (List Regex) :=
  (g.options.filter (·.1 == c)).mapM fun (_, v) => do
    match Regex.ofText? false false v with
    | .ok r => return r
    | .error e => stop 2 (v ++ ": ".toList ++ e.toList)

/-- The options as they stand among arguments. -/
def optionsAmong (operands args : List Octets) : List Octets :=
  (args.reverse.foldl (fun (kept, back) a =>
    if back.head? = some a then (kept, back.drop 1) else (a :: kept, back)) (([] : List Octets), operands.reverse)).1

def blanksGiven (g : Given) : Blanks :=
  if g.has 'w' then .dropped
  else if g.has 'b' then .anyNumber
  else if g.has 'Z' then .noneAtEnd
  else if g.has 'E' then .byColumn
  else .exact

def diffRequest (g : Given) (args : List Octets) : ShellM DiffRequest := do
  let form ← formGiven g
  let around ← aroundGiven g
  let number (c : Char) (what : String) (usual : Nat) : ShellM Nat := do
    match g.value? c with
    | none => return usual
    | some v =>
      let n ← numberGiven what v
      if n = 0 ∧ usual ≠ 0 then misuse 2 ("invalid ".toList ++ what.toList ++ " '".toList ++ v ++ ['\'']) else return n
  let width ← number 'W' "width" 130
  let tabSize ← number '\x0e' "tabsize" 8
  let horizon ← number '\x0f' "horizon length" 0
  match g.value? '\x14' with
  | some v => if !(["", "never", "always", "auto"].any (·.toList == v)) then
      misuse 2 ("invalid color '".toList ++ v ++ ['\''])
  | none => pure ()
  let headings ← regexesGiven g 'F'
  let ignored ← regexesGiven g 'I'
  let headings := headings ++ if !g.has 'p' then []
    else match Regex.ofText? false false "^[[:alpha:]$_]".toList with
      | .ok r => [r]
      | .error _ => []
  let patterns ← g.options.filterMapM fun (c, v) => do
    if c = 'x' then return some [v]
    else if c = 'X' then
      match ← readOperand v with
      | .ok o => return some (linesOf o).1
      | .error e => stop 2 (v ++ ": ".toList ++ e.wording.toList)
    else return none
  let isAround := form == .context || form == .unified
  return {
    difference := {
      blanks := blanksGiven g, ignoresCase := g.has 'i', ignoresEmpty := g.has 'B', ignored
      joinsReturns := g.has '\x07', asText := g.has 'a' }
    style := {
      form, around := if isAround then around else 0, tabbed := g.has 'T', expands := g.has 't', tabSize
      bareBlanks := g.has '\x04', width, leftOnly := g.has '\x02', changedOnly := g.has '\x03'
      heading := match headings with
        | [] => none
        | r :: rest => some (rest.foldl Regex.either r) }
    horizon := max horizon (if isAround then around else 0)
    brief := g.has 'q', tellsSame := g.has 's', deep := g.has 'r', followsLinks := !g.has '\x05'
    missingAreEmpty := g.has 'N', missingFirstAreEmpty := g.has 'P'
    labels := (g.options.filter (·.1 == 'L')).map Prod.snd
    excluded := patterns.flatten.filter (· != []), startName := g.value? 'S'
    options := optionsAmong g.operands args }

def diff : Utility := fun _ args => do
  let g ← readGiven diffForms 2 true args
  let q ← diffRequest g args
  match g.value? '\x10', g.value? '\x11' with
  | some _, some _ => stop 2 "--from-file and --to-file both specified".toList
  | some first, none => each g.operands fun o => diffOperands q first o
  | none, some second => each g.operands fun o => diffOperands q o second
  | none, none =>
    match g.operands with
    | [a, b] => diffOperands q a b
    | _ :: _ :: c :: _ => misuse 2 ("extra operand ".toList ++ quoted c)
    | few => missingAfter (if few = [] then args else few)
where
  each (operands : List Octets) (f : Octets → ShellM Nat) : ShellM Nat :=
    operands.foldlM (fun code o => do return max code (← f o)) 0

end KarelBuild.Shell.Utility.Comparing
