import KarelBuild.Shell.Format
import KarelBuild.Shell.Utility.Streams

/-!
# Characters, fields and lines

Utilities that replace characters, cut fields out of lines, put lines next to each other, and drop
those that repeat.
-/

namespace KarelBuild.Shell.Utility

open ShellM

/-! ## Replacing characters -/

/-- What a set of characters is made of. -/
inductive SetItem where
  | chars (cs : List Char)
  | kind (name : Text) (cs : List Char)
  | repeated (c : Char) (count : Nat)
  deriving DecidableEq, Repr

def allBytes : List Char := (List.range 256).map Char.ofNat

/-- The character in front, with its escape undone. -/
def frontChar : Octets → Option (Char × Octets)
  | [] => none
  | '\\' :: c :: r =>
    if isOctalDigit c then
      let ds := ((c :: r).take 3).takeWhile isOctalDigit
      let ds := if 255 < Arithmetic.valueIn 8 ds then ds.take 2 else ds
      some (byteOf 8 ds, (c :: r).drop ds.length)
    else match [('n', '\n'), ('t', '\t'), ('r', '\r'), ('a', '\x07'), ('b', '\x08'), ('f', '\x0c'),
        ('v', '\x0b'), ('\\', '\\')].lookup c with
      | some d => some (d, r)
      | none => some (c, r)
  | c :: r => some (c, r)

def setItems : (steps : Nat) → Octets → ShellM (List SetItem)
  | 0, _ => return []
  | _, [] => return []
  | n + 1, '[' :: ':' :: r => do
    let name := r.takeWhile (· != ':')
    match r.drop name.length with
    | ':' :: ']' :: rest =>
      match charClass? name with
      | some p => return .kind name (allBytes.filter p) :: (← setItems n rest)
      | none => stop 1 ("invalid character class ".toList ++ quoted name)
    | _ => return .chars ['['] :: (← setItems n (':' :: r))
  | n + 1, '[' :: c :: '*' :: r => do
    let ds := r.takeWhile Char.isDigit
    match r.drop ds.length with
    | ']' :: rest =>
      let base := if ds.head? = some '0' then 8 else 10
      return .repeated c (Arithmetic.valueIn base ds) :: (← setItems n rest)
    | _ => return .chars ['['] :: (← setItems n (c :: '*' :: r))
  | n + 1, t => do
    match frontChar t with
    | none => return []
    | some (low, r) =>
      match r with
      | '-' :: r' =>
        match frontChar r' with
        | none => return .chars [low] :: (← setItems n r)
        | some (high, rest) =>
          if high < low then
            stop 1 ("range-endpoints of '".toList ++ low :: '-' :: high ::
              "' are in reverse collating sequence order".toList)
          else return .chars (allBytes.filter fun c => low ≤ c && c ≤ high) :: (← setItems n rest)
      | _ => return .chars [low] :: (← setItems n r)

/-- The characters of a set; one repeated without a count fills up to `size`. -/
def charsOf (size : Nat) (items : List SetItem) : List Char :=
  let fixed := sumOf (items.map fun
    | .chars cs => cs.length
    | .kind _ cs => cs.length
    | .repeated _ n => n)
  items.flatMap fun
    | .chars cs => cs
    | .kind _ cs => cs
    | .repeated c n => List.replicate (if n = 0 then size - fixed else n) c

/-- Drop repetitions of the characters of a set, with the character that came before. Gives what is left, the
last first, and the last character. -/
def squeeze (cs : List Char) (last : Option Char) (o : Octets) : Octets × Option Char :=
  let listed := (allBytes.map cs.contains).toArray
  o.foldl (fun (back, last) c =>
    if last = some c ∧ listed.getD c.toNat false then (back, last) else (c :: back, some c)) ([], last)

/-- Which character stands for which. -/
def replacements (truncates : Bool) (first second : List Char) : List (Char × Char) :=
  let second := if truncates then second
    else second ++ List.replicate (first.length - second.length) (second.getLastD ' ')
  (first.zip second).reverse

/-- A table of all bytes, to look replacements up fast. -/
def byteTable (pairs : List (Char × Char)) : Array Char :=
  (allBytes.map fun c => (pairs.lookup c).getD c).toArray

def tr : Utility := fun _ args => do
  let g ← readGiven (forms [('c', "complement"), ('C', ""), ('d', "delete"), ('s', "squeeze-repeats"),
    ('t', "truncate-set1")] []) 1 false args
  let deletes := g.has 'd'
  let squeezes := g.has 's'
  let wanted := if deletes == squeezes then 2 else 1
  match g.operands with
  | [] => misuse 1 "missing operand".toList
  | [a] =>
    if wanted = 2 ∧ !(!deletes && squeezes) then
      grumble ("missing operand after ".toList ++ quoted a)
      say 2 (if deletes then "Two strings must be given when both deleting and squeezing repeats.\n".toList
        else "Two strings must be given when translating.\n".toList)
      say 2 ("Try '".toList ++ (← programName) ++ " --help' for more information.\n".toList)
      exit 1
  | [_, b] =>
    if deletes ∧ !squeezes then
      grumble ("extra operand ".toList ++ quoted b)
      say 2 "Only one string may be given when deleting without squeezing repeats.\n".toList
      say 2 ("Try '".toList ++ (← programName) ++ " --help' for more information.\n".toList)
      exit 1
  | _ :: _ :: c :: _ => misuse 1 ("extra operand ".toList ++ quoted c)
  let firstItems ← setItems 10000 (g.operands.headD [])
  let complement := g.has 'c' || g.has 'C'
  let first := charsOf 0 firstItems
  let first := if complement then allBytes.filter (!first.contains ·) else first
  let second ← match g.operands[1]? with
    | some t => do pure (some (charsOf first.length (← setItems 10000 t)))
    | none => pure none
  if !deletes ∧ second = some [] ∧ !g.has 't' ∧ first ≠ [] then
    stop 1 "when not truncating set1, string2 must be non-empty".toList
  let gone := if deletes then (allBytes.map first.contains).toArray else #[]
  let table := match second with
    | some cs => if deletes then #[] else byteTable (replacements (g.has 't') first cs)
    | none => #[]
  let squeezed := if squeezes then second.getD first else []
  let step (last : Option Char) (o : Octets) : ShellM (Option Char × Bool) := do
    let kept := if deletes then o.filter fun c => !gone.getD c.toNat false else o
    let replaced := if table.isEmpty then kept else kept.map fun c => table.getD c.toNat c
    if !squeezes then
      emit replaced
      return (none, false)
    else
      let (back, last) := squeeze squeezed last replaced
      emit back.reverse
      return (last, false)
  match ← openOperand ['-'] with
  | .error e => stop 1 ("read error: ".toList ++ e.wording.toList)
  | .ok n =>
    match ← eachBlock n step maxBlocks none with
    | .ok _ => return 0
    | .error e => stop 1 ("read error: ".toList ++ e.wording.toList)

/-! ## Cutting -/

/-- Ranges of positions, from 1 on; without an end they go on. -/
abbrev Ranges := List (Nat × Option Nat)

/-- How far a list of ranges has been read: the number so far, the number in front of a dash if there was one,
and the ranges before, the last first. -/
structure RangeReading where
  digits : Octets := []
  low : Option Octets := none
  back : Ranges := []

/-- The largest position. -/
def mostPosition : Nat := 0xffffffffffffffff

/-- Read ranges between commas or blanks. What is wrong with them is told with the words for what is counted. -/
def readRanges (isField : Bool) : (whole : Octets) → RangeReading → ShellM Ranges
  | [], s => return (← close s).back.reverse
  | c :: r, s => do
    if c = '-' then
      if s.low.isSome then
        misuse 1 (if isField then "invalid field range" else "invalid byte or character range").toList
      if s.digits ≠ [] ∧ digitsValue s.digits = 0 then fromOne
      readRanges isField r { s with digits := [], low := some s.digits.reverse }
    else if c = ',' ∨ c = ' ' ∨ c = '\t' then readRanges isField r (← close s)
    else if c.isDigit then
      let digits := c :: s.digits
      if mostPosition < digitsValue digits.reverse then
        let all := digits.reverse ++ r.takeWhile Char.isDigit
        misuse 1 ((if isField then "field number " else "byte/character offset ").toList ++ quoted all ++
          " is too large".toList)
      readRanges isField r { s with digits }
    else
      misuse 1 ((if isField then "invalid field value " else "invalid byte/character position ").toList ++
        quoted (c :: r))
where
  fromOne : ShellM Unit :=
    misuse 1 (if isField then "fields are numbered from 1" else "byte/character positions are numbered from 1").toList
  close (s : RangeReading) : ShellM RangeReading := do
    let value := digitsValue s.digits.reverse
    match s.low with
    | none =>
      if value = 0 then fromOne
      return { back := (value, some value) :: s.back }
    | some low =>
      if low = [] ∧ s.digits = [] then misuse 1 "invalid range with no endpoint: -".toList
      let first := if low = [] then 1 else digitsValue low
      if s.digits = [] then return { back := (first, none) :: s.back }
      else
        if value < first then misuse 1 "invalid decreasing range".toList
        return { back := (first, some value) :: s.back }

def rangesOf (what : String) (list : Octets) : ShellM Ranges := readRanges (what = "field") list {}

def Ranges.contains (rs : Ranges) (n : Nat) : Bool :=
  rs.any fun (low, high) => low ≤ n && high.all (n ≤ ·)

/-- Ranges in order, those that overlap made one. -/
def Ranges.merged (rs : Ranges) : Ranges :=
  let sorted := rs.mergeSort fun a b => a.1 ≤ b.1
  (sorted.foldl (fun (back : Ranges) (low, high) =>
    match back with
    | (first, last) :: rest =>
      if last.all (low ≤ ·) then
        let last := match last, high with
          | some a, some b => some (max a b)
          | _, _ => none
        (first, last) :: rest
      else (low, high) :: back
    | [] => [(low, high)]) []).reverse

/-- What lies between ranges that are in order. -/
def Ranges.gaps : (next : Nat) → Ranges → Ranges
  | next, [] => [(next, none)]
  | next, (low, high) :: rest =>
    let front := if next < low then [(next, some (low - 1))] else []
    match high with
    | none => front
    | some high => front ++ Ranges.gaps (high + 1) rest

/-- The items in each range, of those from position `next` on. -/
def Ranges.pick {α : Type} : Ranges → (next : Nat) → List α → List (List α)
  | [], _, _ => []
  | _, _, [] => []
  | (low, high) :: rest, next, items =>
    let items := items.drop (low - next)
    match high with
    | none => [items]
    | some high =>
      let count := high + 1 - low
      if items.isEmpty then [] else items.take count :: Ranges.pick rest (high + 1) (items.drop count)

def cut : Utility := fun _ args => do
  let g ← given (forms [('n', ""), ('s', "only-delimited"), ('\x01', "complement"), ('z', "zero-terminated")]
    [('b', "bytes"), ('c', "characters"), ('f', "fields"), ('d', "delimiter"),
    ('\x02', "output-delimiter")]) args
  let lists := g.options.filter fun o => "bcf".toList.contains o.1
  match lists with
  | [] => misuse 1 "you must specify a list of bytes, characters, or fields".toList
  | _ :: _ :: _ => misuse 1 "only one list may be specified".toList
  | [(kind, list)] =>
    let delimiter ← match g.value? 'd' with
      | none => pure '\t'
      | some [c] => pure c
      | some [] => pure '\x00'
      | some _ => misuse 1 "the delimiter must be a single character".toList
    let rs ← rangesOf (if kind = 'f' then "field" else "byte") list
    if kind ≠ 'f' ∧ (g.value? 'd').isSome then
      misuse 1 "an input delimiter may be specified only when operating on fields".toList
    if kind ≠ 'f' ∧ g.has 's' then
      misuse 1 "suppressing non-delimited lines makes sense\n\tonly when operating on fields".toList
    let joint := (g.value? '\x02').getD (if kind = 'f' then [delimiter] else [])
    let stopMark := if g.has 'z' then '\x00' else '\n'
    let rs := if g.has '\x01' then Ranges.gaps 1 rs.merged else rs.merged
    if kind = 'f' ∧ delimiter = stopMark then
      forOperands g.operands fun _ o => do
        let (lines, rest) := wholeLines stopMark o
        let lines := lines.map (·.1) ++ if rest = [] then [] else [rest]
        if lines ≠ [] then emit (Text.join joint (rs.pick 1 lines).flatten ++ [stopMark])
    else
      let line (l : Octets) : Option Octets :=
        if kind = 'f' then
          if !l.contains delimiter then if g.has 's' then none else some l
          else some (Text.join joint (rs.pick 1 (Text.split delimiter l)).flatten)
        else some (Text.join joint ((rs.pick 1 l).filter (· != [])))
      mapLines stopMark g.operands fun (l, _) => match line l with
        | some o => o ++ [stopMark]
        | none => []

/-! ## Side by side -/

/-- Delimiters with escapes undone; a backslash may not stand at the end. -/
def delimiters? : Octets → Option (List Octets)
  | [] => some []
  | ['\\'] => none
  | '\\' :: c :: r =>
    let d : Octets := match c with
      | '0' => []
      | 'b' => ['\x08']
      | 'f' => ['\x0c']
      | 'n' => ['\n']
      | 'r' => ['\r']
      | 't' => ['\t']
      | 'v' => ['\x0b']
      | c => [c]
    (delimiters? r).map (d :: ·)
  | c :: r => (delimiters? r).map ([c] :: ·)

/-- Texts joined with delimiters, which are used in turn. -/
def joinCycled (ds : Array Octets) (texts : List Octets) : Octets :=
  let (back, _) := texts.foldl (fun ((back, n) : List Octets × Nat) o =>
    if n = 0 then ([o], 1) else (o :: ds.getD ((n - 1) % ds.size) [] :: back, n + 1)) ([], 0)
  back.reverse.flatten

/-- What `paste` finds out about an operand: its lines, or that they cannot be read. -/
def pastedLines (stop : Char) (name : Octets) : ShellM (Except OsError (List Octets)) := do
  match ← readOperand name with
  | .ok o =>
    let (lines, rest) := wholeLines stop o
    return .ok (lines.map (·.1) ++ if rest = [] then [] else [rest])
  | .error e => return .error e

/-- Each file as one line. -/
def pasteEach (ds : Array Octets) (stop : Char) (names : List Octets) : ShellM Nat := do
  let mut code := 0
  let mut isUsed := false
  for name in names do
    match ← pastedLines stop name with
    | .ok lines =>
      let lines := if name = ['-'] ∧ isUsed then [] else lines
      emit (joinCycled ds lines ++ [stop])
      if name = ['-'] then isUsed := true
    | .error e =>
      -- What can be opened and not read is an empty line.
      if e = .isDirectory ∨ name = ['-'] then emit [stop]
      grumble (reason name e)
      code := 1
  return code

/-- Lines that stand next to each other; dashes share the lines of the standard input. -/
def pasteTogether (ds : Array Octets) (stopMark : Char) (names : List Octets) : ShellM Nat := do
  let dashes := names.countP (· == ['-'])
  if (← shell).opened? 0 = none ∧ 0 < dashes ∧ dashes < names.length then stop 1 "standard input is closed".toList
  for name in names do
    if name ≠ ['-'] then
      match ← openOperand name with
      | .ok _ => pure ()
      | .error e => stop 1 (reason name e)
  let mut inputs : List (Array Octets) := []
  let mut seen := 0
  let mut code := 0
  let mut own : Array Octets := #[]
  for name in names do
    let lines ← if name = ['-'] ∧ 0 < seen ∧ code = 0 then pure (.ok own.toList) else pastedLines stopMark name
    match lines with
    | .ok lines =>
      if name = ['-'] then
        if seen = 0 then own := lines.toArray
        let start := seen
        let all := own
        let count := (all.size + dashes - 1 - start) / dashes
        inputs := ((List.range count).map fun i => all.getD (start + i * dashes) []).toArray :: inputs
        seen := seen + 1
      else inputs := lines.toArray :: inputs
    | .error e =>
      grumble (reason name e)
      code := 1
      inputs := #[] :: inputs
  let columns := inputs.reverse
  let height := (columns.map Array.size).foldl max 0
  for i in List.range height do
    emit (joinCycled ds (columns.map fun ls => ls.getD i []) ++ [stopMark])
  return code

/-- Lines that stand next to each other, or the lines of each file in one. -/
def paste : Utility := fun _ args => do
  let g ← given (forms [('s', "serial"), ('z', "zero-terminated")] [('d', "delimiters")]) args
  let text := (g.value? 'd').getD ['\t']
  match delimiters? text with
  | none => stop 1 ("delimiter list ends with an unescaped backslash: ".toList ++ text)
  | some ds =>
    let ds := if ds = [] then #[[]] else ds.toArray
    let stopMark := if g.has 'z' then '\x00' else '\n'
    let names := if g.operands = [] then [['-']] else g.operands
    let code ← if g.has 's' then pasteEach ds stopMark names else pasteTogether ds stopMark names
    if ← lacksInput names then
      grumble (reason ['-'] .badDescriptor)
      return 1
    return code

/-- The column behind a character, where columns count and not bytes. -/
def columnAfter (bytes : Bool) (column : Nat) (c : Char) : Nat :=
  if bytes then column + 1
  else if c = '\x08' then column - 1
  else if c = '\r' then 0
  else if c = '\t' then column / 8 * 8 + 8
  else column + 1

/-- A line cut where it gets wider than `width`; with `atBlanks`, behind the last blank in front of that. The
piece so far is kept with its last character first. -/
def foldLine (bytes atBlanks : Bool) (width : Nat) : (steps : Nat) → (back : Octets) → (column : Nat) → Octets →
    List Octets
  | 0, back, _, l => [back.reverse ++ l]
  | _, back, _, [] => [back.reverse]
  | n + 1, back, column, c :: r =>
    let next := columnAfter bytes column c
    if next ≤ width then foldLine bytes atBlanks width n (c :: back) next r
    else if back = [] then foldLine bytes atBlanks width n [c] next r
    else
      let tail := if atBlanks then back.takeWhile fun d => !(d == ' ' || d == '\t') else []
      if atBlanks ∧ tail.length < back.length then
        let rest := tail.reverse
        let column := rest.foldl (columnAfter bytes) 0
        (back.drop tail.length).reverse :: foldLine bytes atBlanks width n tail column (c :: r)
      else back.reverse :: foldLine bytes atBlanks width n [] 0 (c :: r)

def fold : Utility := fun _ args => do
  let args := args.map fun a => match a with
    | '-' :: ds => if isNumber ds then "-w".toList ++ ds else a
    | a => a
  let g ← given (forms [('b', "bytes"), ('s', "spaces")] [('w', "width")]) args
  let width := match g.value? 'w' with
    | some t => if isNumber t then digitsValue t else 0
    | none => 80
  if width = 0 then
    let value := (g.value? 'w').getD []
    stop 1 ("invalid number of columns: ".toList ++ quoted value ++
      (if isNumber value then ": Numerical result out of range" else "").toList)
  else mapLines '\n' g.operands fun (l, ended) =>
    Text.join ['\n'] (foldLine (g.has 'b') (g.has 's') width (2 * l.length + 2) [] 0 l) ++
      if ended then ['\n'] else []

/-! ## Tabs -/

/-- Where tabs lead to: listed columns, and from there on every so many columns, counted from the last of
these or from the beginning. -/
structure TabStops where
  listed : List Nat := []
  every : Nat := 0
  fromLast : Bool := false

/-- The next stop behind a column, if there is one. -/
def TabStops.next? (t : TabStops) (column : Nat) : Option Nat :=
  match t.listed.find? (column < ·) with
  | some stop => some stop
  | none =>
    if t.every = 0 then none
    else
      let start := if t.fromLast then t.listed.getLastD 0 else 0
      some ((column - start) / t.every * t.every + t.every + start)

/-- The stops that lists between commas or blanks give. -/
def tabStopsOf (lists : List Octets) : ShellM TabStops := do
  let parts := (Text.split ',' ((Text.join [','] lists).map fun c => if c = ' ' ∨ c = '\t' then ',' else c)).filter
    (· != [])
  let mut stops : TabStops := {}
  for part in parts do
    let (mark, ds) : Option Char × Octets := match part with
      | '/' :: r => (some '/', r)
      | '+' :: r => (some '+', r)
      | r => (none, r)
    if !ds.all Char.isDigit ∨ ds = [] then
      let bad := ds.dropWhile Char.isDigit
      stop 1 ("tab size contains invalid character(s): ".toList ++ quoted bad)
    else
      let n := digitsValue ds
      match mark with
      | some c => stops := { stops with every := n, fromLast := c = '+' }
      | none =>
        if n = 0 then stop 1 "tab size cannot be 0".toList
        else if (stops.listed.getLast?).any (n ≤ ·) then stop 1 "tab sizes must be ascending".toList
        else stops := { stops with listed := stops.listed ++ [n] }
  return match stops.listed, stops.every with
    | [], 0 => { every := 8 }
    | [n], 0 => { every := n }
    | _, _ => stops

/-- Tabs as blanks up to the next stop; with `initial`, only in front of other characters. -/
def expandLine (stops : TabStops) (initial : Bool) (l : Octets) : Octets :=
  let (back, _, _) := l.foldl (fun (back, column, atFront) c =>
    if c = '\t' ∧ (atFront ∨ !initial) then
      match stops.next? column with
      | some stop => (List.replicate (stop - column) ' ' ++ back, stop, atFront)
      | none => (' ' :: back, column + 1, atFront)
    else if c = '\x08' then (c :: back, column - 1, atFront && !initial)
    else (c :: back, column + 1, atFront && c == ' ')) (([] : Octets), 0, true)
  back.reverse

/-- Numbers behind a hyphen as lists of stops. -/
def tabArguments (args : List Octets) : List Octets :=
  args.map fun a => match a with
    | '-' :: c :: r => if c.isDigit then "-t".toList ++ c :: r else a
    | a => a

def expandUtility : Utility := fun _ args => do
  let g ← given (forms [('i', "initial")] [('t', "tabs")]) (tabArguments args)
  let stops ← tabStopsOf (g.options.filterMap fun (c, v) => if c = 't' then some v else none)
  mapLines '\n' g.operands fun (l, ended) => expandLine stops (g.has 'i') l ++ if ended then ['\n'] else []

/-- How far blanks have been gathered: those not written yet, the first in front; the column; whether a single
blank in front of a stop is among them; whether the last character was a blank; whether blanks are still turned
into tabs; and what is written, the last first. -/
structure Gathering where
  pending : Octets := []
  column : Nat := 0
  single : Bool := false
  afterBlank : Bool := true
  converts : Bool := true
  back : Octets := []

/-- Write the blanks that are left. -/
def Gathering.release (s : Gathering) : Gathering :=
  let pending := if s.single ∧ s.pending.length > 1 then '\t' :: s.pending.drop 1 else s.pending
  if pending = [] then s else { s with pending := [], single := false, back := pending.reverse ++ s.back }

def Gathering.put (stops : TabStops) (all : Bool) (s : Gathering) (c : Char) : Gathering :=
  if !s.converts then { s with back := c :: s.back }
  else
    let isBlank := c = ' ' || c = '\t'
    let finish (s : Gathering) (c : Char) : Gathering :=
      let s := s.release
      { s with afterBlank := isBlank, converts := s.converts && (all || isBlank), back := c :: s.back }
    let tabbed (s : Gathering) : Gathering := finish { s with pending := if s.single then ['\t'] else [] } '\t'
    if isBlank then
      match stops.next? s.column with
      | none => finish { s with converts := false } c
      | some stop =>
        if c = '\t' then tabbed { s with column := stop }
        else if s.afterBlank ∧ s.column + 1 = stop then tabbed { s with column := stop }
        else { s with
          column := s.column + 1, single := s.single || s.column + 1 = stop
          pending := s.pending ++ [c], afterBlank := true }
    else if c = '\x08' then finish { s with column := s.column - 1 } c
    else finish { s with column := s.column + 1 } c

/-- Blanks that reach a stop as tabs. -/
def unexpandLine (stops : TabStops) (all : Bool) (l : Octets) : Octets :=
  (l.foldl (Gathering.put stops all) {}).release.back.reverse

def unexpand : Utility := fun _ args => do
  let g ← given (forms [('a', "all"), ('\x01', "first-only")] [('t', "tabs")]) (tabArguments args)
  let stops ← tabStopsOf (g.options.filterMap fun (c, v) => if c = 't' then some v else none)
  let all := (g.has 'a' || g.has 't') && !g.has '\x01'
  mapLines '\n' g.operands fun (l, ended) => unexpandLine stops all l ++ if ended then ['\n'] else []

/-! ## Repeated lines -/

def skipFields : (count : Nat) → Octets → Octets
  | 0, l => l
  | n + 1, l =>
    let l := l.dropWhile fun c => c == ' ' || c == '\t'
    skipFields n (l.dropWhile fun c => !(c == ' ' || c == '\t'))

/-- Which groups of lines `uniq` writes, and how. -/
structure GroupStyle where
  counts : Bool
  repeated : Bool
  unique : Bool
  /-- Whether all lines of a group are written, and where empty lines stand then. -/
  everyLine : Option String
  stop : Char

/-- A group of lines with one key: the key, the first line, how many there are, and all of them, the last first. -/
structure LineGroup where
  key : Octets
  first : Octets
  count : Nat
  back : List Octets

/-- Write a group; `isFirst` is whether none has been written before. Tells whether this one has been. -/
def emitGroup (s : GroupStyle) (isFirst : Bool) (g : LineGroup) : ShellM Bool := do
  let isWanted := !(s.unique && g.count > 1) && !(s.repeated && g.count = 1)
  if !isWanted then return false
  else match s.everyLine with
    | some method =>
      let text := g.back.reverse.flatMap (· ++ [s.stop])
      let lead := if method = "prepend" ∨ (method = "both" ∧ isFirst) ∨ (method = "separate" ∧ !isFirst) then [s.stop]
        else []
      emit (lead ++ text ++ if method = "append" ∨ method = "both" then [s.stop] else [])
      return true
    | none =>
      let lead := if s.counts then padLeft 7 (Text.ofNat g.count) ++ [' '] else []
      emit (lead ++ g.first ++ [s.stop])
      return true

def uniq : Utility := fun _ args => do
  let args := args.map fun a => match a with
    | '-' :: ds => if isNumber ds then "-f".toList ++ ds else a
    | '+' :: ds => if isNumber ds then "-s".toList ++ ds else a
    | a => a
  let g ← given (forms [('c', "count"), ('d', "repeated"), ('D', ""), ('u', "unique"),
    ('i', "ignore-case"), ('z', "zero-terminated")] [('f', "skip-fields"), ('s', "skip-chars"),
    ('w', "check-chars")] ++ [⟨'\x01', "all-repeated", .maybe⟩, ⟨'\x02', "group", .maybe⟩]) args
  for (c, what) in [('f', "fields to skip"), ('s', "bytes to skip"), ('w', "bytes to compare")] do
    match g.value? c with
    | some t => if !isNumber t then stop 1 (t ++ ": invalid number of ".toList ++ what.toList)
    | none => pure ()
  let number (c : Char) : Nat := ((g.value? c).map digitsValue).getD 0
  let method (c : Char) (known : List String) (usual option : String) : ShellM (Option String) := do
    match g.value? c with
    | none => return none
    | some [] => return some usual
    | some word =>
      match known.find? fun k => word.isPrefixOf k.toList with
      | some k => return some k
      | none =>
        grumble ("invalid argument ".toList ++ quoted word ++ " for '--".toList ++ option.toList ++ ['\''])
        say 2 "Valid arguments are:\n".toList
        for k in known do say 2 ("  - '".toList ++ k.toList ++ "'\n".toList)
        say 2 ("Try '".toList ++ (← programName) ++ " --help' for more information.\n".toList)
        exit 1
  let repeats ← method '\x01' ["none", "prepend", "separate"] "none" "all-repeated"
  let grouping ← method '\x02' ["prepend", "append", "separate", "both"] "separate" "group"
  if grouping.isSome ∧ (g.has 'c' ∨ g.has 'd' ∨ g.has 'D' ∨ g.has 'u' ∨ repeats.isSome) then
    misuse 1 "--group is mutually exclusive with -c/-d/-D/-u".toList
  let allRepeated := g.has 'D' || repeats.isSome
  if allRepeated ∧ g.has 'c' then
    misuse 1 "printing all duplicated lines and repeat counts is meaningless".toList
  let key (l : Octets) : Octets :=
    let l := (skipFields (number 'f') l).drop (number 's')
    let l := match g.value? 'w' with
      | some t => l.take (digitsValue t)
      | none => l
    if g.has 'i' then l.map Char.toLower else l
  let s : GroupStyle := {
    counts := g.has 'c', repeated := g.has 'd' || allRepeated, unique := g.has 'u'
    everyLine := if allRepeated then some (repeats.getD "none") else grouping
    stop := if g.has 'z' then '\x00' else '\n' }
  match g.operands with
  | _ :: _ :: extra :: _ => misuse 1 ("extra operand ".toList ++ quoted extra)
  | operands =>
    let name := operands.headD ['-']
    let input ← match ← openOperand name with
      | .ok n => pure n
      | .error .badDescriptor => stop 1 "error reading '-': Bad file descriptor".toList
      | .error e => stop 1 (reason name e)
    match operands[1]? with
    | some path =>
      if path ≠ ['-'] then
        match ← openPath path .writes with
        | .ok n => modifyShell fun p => p.connect 1 n
        | .error e => stop 1 (reason path e)
    | none => pure ()
    let step (state : Option LineGroup × Bool) (lines : List (Octets × Bool)) :
        ShellM ((Option LineGroup × Bool) × Option Nat) := do
      let mut state := state
      for (l, _) in lines do
        let k := key l
        match state with
        | (some group, isFirst) =>
          if group.key = k then
            let back := if s.everyLine.isSome then l :: group.back else []
            state := (some { group with count := group.count + 1, back }, isFirst)
          else
            let written ← emitGroup s isFirst group
            state := (some ⟨k, l, 1, [l]⟩, isFirst && !written)
        | (none, isFirst) => state := (some ⟨k, l, 1, [l]⟩, isFirst)
      return (state, none)
    match ← eachLines s.stop input step (none, true) with
    | .error e => stop 1 (reason name e)
    | .ok (some group, isFirst) =>
      let _ ← emitGroup s isFirst group
      return 0
    | .ok (none, _) => return 0

/-! ## Two sorted files -/

/-- Lines that only the first, only the second, or both texts have. -/
def merged : (steps : Nat) → List Octets → List Octets → List (Nat × Octets)
  | 0, _, _ => []
  | _, [], ms => ms.map (2, ·)
  | _, ls, [] => ls.map (1, ·)
  | n + 1, l :: ls, m :: ms =>
    if l = m then (3, l) :: merged n ls ms
    else if Text.le l m then (1, l) :: merged n ls (m :: ms)
    else (2, m) :: merged n (l :: ls) ms

def comm : Utility := fun _ args => do
  let g ← given (forms [('1', ""), ('2', ""), ('3', ""), ('\x01', "check-order"),
    ('\x02', "nocheck-order"), ('z', "zero-terminated")] [('\x03', "output-delimiter")]) args
  match g.operands with
  | [] => misuse 1 "missing operand".toList
  | [a] => misuse 1 ("missing operand after ".toList ++ quoted a)
  | [a, b] =>
    let read (name : Octets) : ShellM (List Octets) := do
      match ← readOperand name with
      | .ok o => return (linesOf o).1
      | .error e => stop 1 (reason name e)
    let ls ← read a
    let ms ← read b
    let joint := (g.value? '\x03').getD ['\t']
    let hidden (n : Nat) : Bool := g.has (Char.ofNat (48 + n))
    let lead (n : Nat) : Octets :=
      ((List.range (n - 1)).filter fun k => !hidden (k + 1)).flatMap fun _ => joint
    emit ((merged (ls.length + ms.length) ls ms).flatMap fun (n, l) =>
      if hidden n then [] else lead n ++ l ++ ['\n'])
    return 0
  | _ :: _ :: c :: _ => misuse 1 ("extra operand ".toList ++ quoted c)

/-! ## Sequences of numbers -/

/-- A number in decimal notation: an integer and how many of its digits stand behind the point. -/
structure Scaled where
  digits : Int
  places : Nat

namespace Scaled

def ofText? (t : Octets) : Option Scaled :=
  let (negative, body) := match t with
    | '-' :: r => (true, r)
    | '+' :: r => (false, r)
    | r => (false, r)
  let (mantissa, exponent) := match Text.cut 'e' (body.map fun c => if c = 'E' then 'e' else c) with
    | (m, some x) => (m, some x)
    | (m, none) => (m, none)
  let (whole, fraction) := Text.cut '.' mantissa
  let fraction := fraction.getD []
  let ds := whole ++ fraction
  if ds = [] ∨ !ds.all Char.isDigit then none
  else
    let n : Int := digitsValue ds
    let n := if negative then -n else n
    match exponent with
    | none => some ⟨n, fraction.length⟩
    | some x =>
      let (down, xs) := match x with
        | '-' :: r => (true, r)
        | '+' :: r => (false, r)
        | r => (false, r)
      if !isNumber xs ∨ xs.length > 3 then none
      else
        let k := digitsValue xs
        if down then some ⟨n, fraction.length + k⟩
        else if k ≤ fraction.length then some ⟨n, fraction.length - k⟩
        else some ⟨n * Nat.pow 10 (k - fraction.length), 0⟩

def at_ (places : Nat) (s : Scaled) : Int := s.digits * Nat.pow 10 (places - s.places)

/-- The digits with a point, padded with zeros behind the sign. -/
def text (places width : Nat) (n : Int) : Octets :=
  let ds := Text.ofNat n.natAbs
  let ds := List.replicate (places + 1 - ds.length) '0' ++ ds
  let whole := ds.take (ds.length - places)
  let body := if places = 0 then whole else whole ++ '.' :: ds.drop (ds.length - places)
  let sign := if n < 0 then ['-'] else []
  sign ++ List.replicate (width - body.length - sign.length) '0' ++ body

end Scaled

def sequence (step last : Int) : (steps : Nat) → Int → List Int
  | 0, _ => []
  | n + 1, i =>
    if (step > 0 ∧ last < i) ∨ (step < 0 ∧ i < last) then []
    else i :: sequence step last n (i + step)

/-- Numbers that are negative are no options. -/
def seqOptions (args : List Octets) : List Octets × List Octets :=
  let isOption (a : Octets) : Bool :=
    match a with
    | '-' :: c :: _ => !(c.isDigit || c == '.')
    | _ => false
  go isOption args.length args
where
  go (isOption : Octets → Bool) : Nat → List Octets → List Octets × List Octets
    | n + 1, a :: rest =>
      if isOption a then
        let takes := a = "-s".toList ∨ a = "-f".toList
        let (os, more) := go isOption n (if takes then rest.drop 1 else rest)
        (a :: (if takes then rest.take 1 else []) ++ os, more)
      else ([], a :: rest)
    | _, rest => ([], rest)

def seq : Utility := fun _ args => do
  let (options, numbers) := seqOptions args
  let g ← given (forms [('w', "equal-width")] [('s', "separator"), ('f', "format")]) options
  let number (t : Octets) : ShellM Scaled := do
    match Scaled.ofText? t with
    | some s => return s
    | none => misuse 1 ("invalid floating point argument: ".toList ++ quoted t)
  let numbers := g.operands ++ numbers
  let one : Scaled := ⟨1, 0⟩
  let (first, step, last) ← match numbers with
    | [] => misuse 1 "missing operand".toList
    | [c] => do pure (one, one, ← number c)
    | [a, c] => do pure (← number a, one, ← number c)
    | [a, b, c] => do
      let a ← number a
      let s ← number b
      if s.digits = 0 then misuse 1 ("invalid Zero increment value: ".toList ++ quoted b)
      else pure (a, s, ← number c)
    | _ :: _ :: _ :: d :: _ => misuse 1 ("extra operand ".toList ++ quoted d)
  let places := max first.places step.places
  let fine := max places last.places
  let scale : Int := Nat.pow 10 (fine - places)
  let values := (sequence (step.at_ fine) (last.at_ fine) 0x1000000 (first.at_ fine)).map (· / scale)
  let width := if g.has 'w' then
      let texts := [first.at_ fine / scale, (last.at_ fine).tdiv scale].map (Scaled.text places 0)
      (texts.map List.length).foldl max 0
    else 0
  let texts := values.map fun n => match g.value? 'f' with
    | some f => (Format.apply .program f [Scaled.text places 0 n]).output
    | none => Scaled.text places width n
  if texts = [] then return 0
  else
    emit (Text.join ((g.value? 's').getD ['\n']) texts ++ ['\n'])
    return 0

end KarelBuild.Shell.Utility
