import KarelBuild.Shell.Format
import KarelBuild.Shell.Regex.Reading
import KarelBuild.Shell.Utility.Running

/-!
# Pieces of files

`split` cuts a file into pieces of equal size, of so many lines, or so many in all. `csplit` cuts it at lines
that are counted or that match. The pieces go to files whose names count up.
-/

namespace KarelBuild.Shell.Utility

open ShellM

namespace Dividing

/-! ## Cutting -/

/-- Lines with their ends; the last one may have none. -/
def fullLines (stop : Char) (o : Octets) : List Octets :=
  let (lines, rest) := wholeLines stop o
  lines.map (fun (l, _) => l ++ [stop]) ++ if rest = [] then [] else [rest]

/-- Pieces of `size` items, the last of which may have fewer. -/
def pieces {α : Type} (size : Nat) : (steps : Nat) → List α → List (List α)
  | 0, _ => []
  | _, [] => []
  | n + 1, items => items.take size :: pieces size n (items.drop size)

/-- Pieces of a number of bytes; with a limit, the last one takes what is left, and missing ones are empty. -/
def byBytes (size : Nat) (limit : Option Nat) (o : Octets) : List Octets :=
  match limit with
  | none => pieces size o.length o
  | some k =>
    let front := pieces size (k - 1) (o.take (size * (k - 1)))
    let rest := o.drop (size * (k - 1))
    let all := if rest = [] then front else front ++ [rest]
    all ++ List.replicate (k - all.length) []

/-- Where cutting into pieces of whole lines stands: the piece so far, the last line first, its size, and the
pieces before it, the last first. -/
structure Filling where
  back : List Octets := []
  size : Nat := 0
  done : List Octets := []

def Filling.close (f : Filling) : Filling :=
  if f.back = [] then f else { done := f.back.reverse.flatten :: f.done }

/-- Pieces that hold as many whole lines as `most` bytes have room for. Longer lines are cut. -/
def byLineBytes (most : Nat) (lines : List Octets) : List Octets :=
  (lines.foldl add {}).close.done.reverse
where
  add (f : Filling) (line : Octets) : Filling :=
    let length := line.length
    if f.size + length ≤ most then { f with back := line :: f.back, size := f.size + length }
    else if length ≤ most then { f.close with back := [line], size := length }
    else
      let f := f.close
      let parts := pieces most length line
      let last := parts.getLastD []
      { back := [last], size := last.length, done := parts.dropLast.reverse ++ f.done }

/-- As many pieces of whole lines as are asked for: a line belongs to the piece in which it begins, where pieces
of equal size would lie. -/
def byLineShares (count size : Nat) (lines : List Octets) : List Octets :=
  let share := size / count
  let (groups, _) := lines.foldl (fun ((groups : List (List Octets)), (start : Nat)) line =>
    let place := min (count - 1) (start / share)
    let missing := place + 1 - groups.length
    let groups := List.replicate missing [] ++ groups
    let groups := match groups with
      | g :: rest => (line :: g) :: rest
      | [] => [[line]]
    (groups, start + line.length)) ([], 0)
  let all := groups.reverse.map fun g => g.reverse.flatten
  all ++ List.replicate (count - all.length) []

/-- Lines dealt out one after another to as many pieces as are asked for. -/
def byTurns (count : Nat) (lines : List Octets) : List Octets :=
  let rounds := pieces count lines.length lines
  (List.range count).map fun i => rounds.flatMap fun r => (r[i]?).getD []

/-! ## Names that count up -/

/-- Names of pieces: what stands in front, the letters to count with, the digits of the next name, and what
stands behind. With `widens`, names become longer before they run out. -/
structure Names where
  front : Octets
  letters : Octets
  digits : List Nat
  behind : Octets := []
  widens : Bool := true

namespace Names

def text (n : Names) : Octets := n.front ++ n.digits.map (fun d => n.letters.getD d ' ') ++ n.behind

/-- Digits that have been counted up by one; `none` if there are no higher ones. -/
def next? (base : Nat) : List Nat → Option (List Nat)
  | [] => none
  | d :: rest =>
    match next? base rest with
    | some rest => some (d :: rest)
    | none => if d + 1 < base then some ((d + 1) :: rest.map fun _ => 0) else none

/-- The names behind the next one. The last letter in front is kept for longer names. -/
def after? (n : Names) : Option Names :=
  let base := n.letters.length
  match next? base n.digits with
  | none => none
  | some digits =>
    if n.widens ∧ digits.head? = some (base - 1) then
      some { n with
        front := n.front ++ [n.letters.getD (base - 1) ' ']
        digits := List.replicate (digits.length + 1) 0 }
    else some { n with digits }

end Names

/-! ## `split` -/

/-- How a file is cut. -/
inductive Cut where
  | lines (n : Nat)
  | bytes (n : Nat)
  | lineBytes (n : Nat)
  | shares (n : Nat) (only : Option Nat)
  | lineShares (n : Nat) (only : Option Nat)
  | turns (n : Nat) (only : Option Nat)

/-- A number that has to be positive, with what is wrong with it. -/
def positive (what : String) (value : Octets) (number : Option Nat) (most : Nat) : ShellM Nat := do
  match number with
  | none => stop 1 (what.toList ++ ": ".toList ++ quoted value)
  | some 0 => stop 1 (what.toList ++ ": ".toList ++ quoted value ++ ": Numerical result out of range".toList)
  | some n =>
    if most < n then
      stop 1 (what.toList ++ ": ".toList ++ quoted value ++ ": Value too large for defined data type".toList)
    else return n

def plainNumber? (o : Octets) : Option Nat :=
  let ds := o.dropWhile fun c => c == ' '
  let ds := if ds.head? = some '+' then ds.drop 1 else ds
  if isNumber ds then some (digitsValue ds) else none

/-- The largest number of pieces or lines, and of bytes. -/
def mostItems : Nat := 0xffffffffffffffff

def mostBytes : Nat := 0x7fffffffffffffff

/-- Pieces by their number: all of them, or one. -/
def readShares (value : Octets) : ShellM Cut := do
  let value := value.dropWhile fun c => " \t\n\x0b\x0c\r".toList.contains c
  let (make, body) : (Nat → Option Nat → Cut) × Octets := match value with
    | 'r' :: '/' :: body => (.turns, body)
    | 'l' :: '/' :: body => (.lineShares, body)
    | body => (.shares, body)
  match Text.cut '/' body with
  | (number, none) =>
    return make (← positive "invalid number of chunks" number (plainNumber? number) mostItems) none
  | (only, some number) =>
    let count ← positive "invalid number of chunks" number (plainNumber? number) mostItems
    if only = [] then return make count none
    else
      let k ← positive "invalid chunk number" only (plainNumber? only) mostItems
      if count < k then
        stop 1 ("invalid chunk number: ".toList ++ quoted only ++ ": Numerical result out of range".toList)
      return make count (some k)

def splitForms : List OptionForm :=
  forms [('d', ""), ('x', ""), ('e', "elide-empty-files"), ('u', "unbuffered"), ('\x01', "verbose"), ('0', ""),
    ('1', ""), ('2', ""), ('3', ""), ('4', ""), ('5', ""), ('6', ""), ('7', ""), ('8', ""), ('9', "")]
    [('a', "suffix-length"), ('b', "bytes"), ('C', "line-bytes"), ('l', "lines"), ('n', "number"), ('t', "separator"),
      ('\x02', "additional-suffix"), ('\x03', "filter")] ++
  [⟨'D', "numeric-suffixes", .maybe⟩, ⟨'X', "hex-suffixes", .maybe⟩]

/-- How options ask for a file to be cut. -/
def readCut (g : Given) : ShellM Cut := do
  let ways := g.options.filter fun (c, _) => "bCln".toList.contains c
  let digits := g.options.filter fun (c, _) => c.isDigit
  if 1 < ways.length + min 1 digits.length then misuse 1 "cannot split in more than one way".toList
  match ways with
  | (c, value) :: _ =>
    if c = 'l' then return .lines (← positive "invalid number of lines" value (plainNumber? value) mostItems)
    else if c = 'b' then return .bytes (← positive "invalid number of bytes" value (sized? value) mostBytes)
    else if c = 'C' then return .lineBytes (← positive "invalid number of bytes" value (sized? value) mostBytes)
    else readShares value
  | [] =>
    if digits = [] then return .lines 1000
    else
      let n := digitsValue (digits.map (·.1))
      if n = 0 then misuse 1 "invalid number of lines: '0'".toList
      return .lines n

/-- The character between lines. -/
def readSeparator (g : Given) : ShellM Char := do
  match (g.options.filter (·.1 == 't')).map (·.2) with
  | [] => return '\n'
  | values =>
    let chars ← values.mapM fun (v : Octets) => do
      match v with
      | [] => stop 1 "empty record separator".toList
      | [c] => return c
      | _ =>
        if v = "\\0".toList then return '\x00'
        else stop 1 ("multi-character separator ".toList ++ quoted v)
    match chars.eraseDups with
    | [c] => return c
    | _ => stop 1 "multiple separator characters specified".toList

/-- How many pieces there will be, if that is known. -/
def Cut.count? : Cut → Option Nat
  | .shares n _ => some n
  | .lineShares n _ => some n
  | .turns n _ => some n
  | _ => none

/-- The only piece that is wanted. -/
def Cut.only? : Cut → Option Nat
  | .shares _ k => k
  | .lineShares _ k => k
  | .turns _ k => k
  | _ => none

/-- How many digits numbers below one take. -/
def digitsNeeded (base : Nat) : (steps : Nat) → Nat → Nat
  | 0, _ => 1
  | n + 1, k => if k < base then 1 else 1 + digitsNeeded base n (k / base)

/-- The names that options ask for. -/
def readNames (g : Given) (front : Octets) (cut : Cut) : ShellM Names := do
  let length ← match g.value? 'a' with
    | none => pure 0
    | some v =>
      match plainNumber? v with
      | some n => pure n
      | none => stop 1 ("invalid suffix length: ".toList ++ quoted v)
  let behind := (g.value? '\x02').getD []
  if behind.contains '/' then
    misuse 1 ("invalid suffix ".toList ++ quoted behind ++ ", contains directory separator".toList)
  let letters := match g.last? "dDxX" with
    | some 'd' => "0123456789"
    | some 'D' => "0123456789"
    | some _ => "0123456789abcdef"
    | none => "abcdefghijklmnopqrstuvwxyz"
  let starts := g.options.filter fun (c, v) => (c == 'D' || c == 'X') && v != []
  for (c, v) in starts do
    let known := if c = 'D' then "0123456789".toList else "0123456789abcdef".toList
    if !v.all known.contains then
      misuse 1 (quoted v ++ ": invalid start value for ".toList ++
        (if c = 'D' then "numerical" else "hexadecimal").toList ++ " suffix".toList)
  let start : Option Octets := (starts.getLast?).map fun (_, v) =>
    let trimmed := v.dropWhile (· == '0')
    if trimmed = [] then ['0'] else trimmed
  let base := letters.length
  let needed := (cut.count?).map fun n =>
    let first := match start with
      | some s => if isNumber s ∧ digitsValue s < n then digitsValue s else 0
      | none => 0
    digitsNeeded base n (n - 1 + first)
  if 0 < length ∧ length < needed.getD 0 then
    stop 1 ("the suffix length needs to be at least ".toList ++ Text.ofNat (needed.getD 0))
  let size := if 0 < length then length else max 2 (needed.getD 0)
  let digits := (start.getD []).map fun c => letters.toList.idxOf c
  if size < digits.length then
    misuse 1 "numerical suffix start value is too large for the suffix length".toList
  return {
    front, letters := letters.toList, digits := List.replicate (size - digits.length) 0 ++ digits, behind
    widens := length = 0 && start.isNone && needed.isNone }

/-- What is read from the standard input, once it is that. -/
def readSource (name : Octets) (needsSize : Bool) : ShellM Octets := do
  match ← openOperand name with
  | .error e => stop 1 ("cannot open ".toList ++ quoted name ++ " for reading: ".toList ++ e.wording.toList)
  | .ok n =>
    if needsSize then
      match ← targetOf n with
      | some (.stream _) => stop 1 (named name ++ ": cannot determine file size".toList)
      | _ => pure ()
    match ← takeAll n with
    | .ok (.text o) => return o
    | .ok (.endless _) => return []
    | .error e => stop 1 (named name ++ ": ".toList ++ e.wording.toList)

/-- The pieces of a text. -/
def Cut.apply (cut : Cut) (stop : Char) (o : Octets) : List Octets :=
  match cut with
  | .lines n =>
    let lines := fullLines stop o
    (pieces n lines.length lines).map List.flatten
  | .bytes n => byBytes n none o
  | .lineBytes n => byLineBytes n (fullLines stop o)
  | .shares n _ => byBytes (max o.length n / n) (some n) o
  | .lineShares n _ => byLineShares n (max o.length n) (fullLines stop o)
  | .turns n _ => byTurns n (fullLines stop o)

/-- Have a command read a piece, whose name it is told. -/
def feed (command name o : Octets) : ShellM Unit := do
  putVar "FILE".toList { content := .text name, exported := true }
  let program := ((← shell).value? "SHELL".toList).getD "/bin/sh".toList
  match ← launchNamed program ["-c".toList, command] with
  | .error _ => stop 1 ("failed to run command: \"".toList ++ program ++ " -c ".toList ++ command ++ ['"'])
  | .ok l =>
    let (_, reading, writing) ← openStream
    let number ← newProcess
    spawn (((← shell).forProgram number).connect 0 reading) (.program { l with name := lastName program })
    modifyShell fun p => { p with kept := writing :: p.kept, traps := (13, []) :: p.traps }
    let _ ← writeTo writing o
    modifyShell fun p => { p with kept := p.kept.erase writing }
    noteHeld none
    match ← awaitEnding number with
    | .code 0 => return
    | .code n =>
      grumble ("with FILE=".toList ++ named name ++ ", exit ".toList ++ Text.ofNat n ++ " from command: ".toList ++
        command)
      exit n
    | .signal 13 => return
    | .signal n =>
      grumble ("with FILE=".toList ++ named name ++ ", signal ".toList ++ signalName true n ++ " from command: ".toList ++
        command)
      exit (n + 128)

/-- Write one piece under its name. -/
def writePiece (g : Given) (source : Option Place) (name o : Octets) : ShellM Unit := do
  match g.value? '\x03' with
  | some command =>
    if g.has '\x01' then emitLine ("executing with FILE=".toList ++ named name)
    flush
    feed command name o
  | none =>
    if g.has '\x01' then emitLine ("creating file ".toList ++ quoted name)
    if let .ok (place, _) ← stat? name then
      if source = some place then stop 1 (quoted name ++ " would overwrite input; aborting".toList)
    match ← openPath name .writes with
    | .error e => stop 1 (reason name e)
    | .ok n =>
      match ← writeTo n o with
      | .ok () => return
      | .error e => stop 1 (reason name e)

def writePieces (g : Given) (source : Option Place) : List Octets → Option Names → ShellM Unit
  | [], _ => return
  | o :: rest, names => do
    if o = [] ∧ g.has 'e' then writePieces g source rest names
    else match names with
      | none => stop 1 "output file suffixes exhausted".toList
      | some names =>
        writePiece g source names.text o
        writePieces g source rest names.after?

def split : Utility := fun _ args => do
  let g ← given splitForms args
  let stopChar ← readSeparator g
  let cut ← readCut g
  let (name, front) ← match g.operands with
    | [] => pure (['-'], ['x'])
    | [name] => pure (name, ['x'])
    | [name, front] => pure (name, front)
    | _ :: _ :: extra :: _ => misuse 1 ("extra operand ".toList ++ quoted extra)
  if cut.only?.isSome ∧ g.has '\x03' then
    misuse 1 "--filter does not process a chunk extracted to stdout".toList
  let names ← readNames g front cut
  let needsSize := match cut with
    | .shares _ _ => true
    | .lineShares _ _ => true
    | _ => false
  let o ← readSource name needsSize
  match cut.only? with
  | some k =>
    emit ((cut.apply stopChar o).getD (k - 1) [])
    return 0
  | none =>
    let source ← match ← stat? name with
      | .ok (place, _) => pure (some place)
      | .error _ => pure none
    writePieces g (if name = ['-'] then none else source) (cut.apply stopChar o) (some names)
    return 0

/-! ## `csplit` -/

/-- Where a piece ends: in front of a line that is counted, or that matches; lines up to one that matches may be
left out. -/
inductive Limit where
  | line (n : Nat)
  | found (r : Regex) (offset : Int) (leftOut : Bool)

/-- An operand that tells where a piece ends, and how often the same is done again; `none` for as often as can be
done. -/
structure Mark where
  text : Octets
  limit : Limit
  repeats : Option Nat := some 0

/-- Where `csplit` stands: the lines that are left with the number of the first of them, the line that was
looked at last, how many files there are, and what goes to the one that is open, the last first. -/
structure Cutting where
  rest : List Octets
  first : Nat := 1
  current : Nat := 0
  files : Nat := 0
  isOpen : Bool := false
  back : List Octets := []

/-- What options ask for. -/
structure CutStyle where
  nameOf : Nat → Octets
  keeps : Bool
  isQuiet : Bool
  elides : Bool
  dropsMatches : Bool

abbrev CutM := StateT Cutting ShellM

section

variable (s : CutStyle)

def closePiece : CutM Unit := do
  let c ← get
  if c.isOpen then
    let o := c.back.reverse.flatten
    let name := s.nameOf (c.files - 1)
    if o = [] ∧ s.elides then
      let _ ← (attempt [] fun t dir => t.removeFile dir (pathText name) : ShellM Bool)
      set { c with isOpen := false, back := [], files := c.files - 1 }
    else
      match ← openPath name .appends with
      | .ok n => let _ ← writeTo n o
      | .error _ => pure ()
      if !s.isQuiet then emit (Text.ofNat o.length ++ ['\n'])
      set { c with isOpen := false, back := [] }

/-- End with what has been complained of; the files that were made are removed. -/
def giveUpCutting {α : Type} : CutM α := do
  closePiece s
  if !s.keeps then
    for i in List.range (← get).files do
      let _ ← (attempt [] fun t dir => t.removeFile dir (pathText (s.nameOf i)) : ShellM Bool)
  (flush : ShellM Unit)
  exit 1

def tell (message : Octets) : CutM Unit := do
  say 2 ((← programName) ++ ": ".toList ++ message ++ ['\n'])

def openPiece : CutM Unit := do
  let name := s.nameOf (← get).files
  match ← openPath name .writes with
  | .ok _ => modify fun c => { c with files := c.files + 1, isOpen := true, back := [] }
  | .error e =>
    tell (reason name e)
    giveUpCutting s

def takeFirst? : CutM (Option Octets) := do
  let c ← get
  match c.rest with
  | [] => return none
  | line :: rest =>
    set { c with rest, first := c.first + 1, current := max c.current c.first }
    return some line

def save (line : Octets) : CutM Unit := modify fun c => { c with back := line :: c.back }

def saveRest : CutM Unit := modify fun c =>
  { c with back := c.rest.reverse ++ c.back, rest := [], first := c.first + c.rest.length }

def onRepetition (k : Nat) : Octets := if k = 0 then [] else " on repetition ".toList ++ Text.ofNat k

def lineFault {α : Type} (n k : Nat) : CutM α := do
  tell (quoted (Text.ofNat n) ++ ": line number out of range".toList ++ onRepetition k)
  giveUpCutting s

/-- Lines up to one that is counted. -/
def cutAtLine (n k : Nat) : CutM Unit := do
  openPiece s
  if (← get).rest = [] then
    if s.dropsMatches then lineFault s n k
    else
      tell "input disappeared".toList
      (flush : ShellM Unit)
      exit 1
  go (n * (k + 1) - (← get).first)
  closePiece s
  if s.dropsMatches then let _ ← takeFirst?
  else if (← get).rest = [] then lineFault s n k
where
  go : Nat → CutM Unit
    | 0 => return
    | i + 1 => do
      match ← takeFirst? with
      | some line =>
        save line
        go i
      | none => lineFault s n k

/-- Look for a line that matches behind the one that was looked at last. Lines in front of it are saved at once,
unless they may be needed again. `none` if there is no such line. -/
def seek (r : Regex) (buffers leftOut : Bool) : (steps : Nat) → CutM (Option Nat)
  | 0 => return none
  | n + 1 => do
    modify fun c => { c with current := c.current + 1 }
    let c ← get
    match if c.current < c.first then none else c.rest[c.current - c.first]? with
    | none => return none
    | some line =>
      let text := if line.getLast? = some '\n' then line.dropLast else line
      if (r.search text).isSome then return some c.current
      else
        if !buffers then
          match ← takeFirst? with
          | some line => if !leftOut then save line
          | none => pure ()
        seek r buffers leftOut n

/-- Lines up to one that matches. Tells whether there was one. -/
def cutAtMatch (m : Mark) (r : Regex) (offset : Int) (leftOut : Bool) (k : Nat) : CutM Bool := do
  if !leftOut then openPiece s
  match ← seek r (offset < 0) leftOut ((← get).rest.length + 2) with
  | none =>
    if m.repeats.isSome then tell (quoted m.text ++ ": match not found".toList ++ onRepetition k)
    if !leftOut then
      saveRest
      closePiece s
    if m.repeats.isSome then giveUpCutting s else return false
  | some line =>
    let last : Int := line + offset
    let c ← get
    if last < c.first then outOfRange
    go (last.toNat - c.first)
    if !leftOut then closePiece s
    if 0 < offset then modify fun c => { c with current := last.toNat }
    if s.dropsMatches then let _ ← takeFirst?
    return true
where
  outOfRange : CutM Unit := do
    tell (quoted m.text ++ ": line number out of range".toList)
    giveUpCutting s
  go : Nat → CutM Unit
    | 0 => return
    | i + 1 => do
      match ← takeFirst? with
      | some line =>
        if !leftOut then save line
        go i
      | none => outOfRange

/-- Cut at one mark as often as it says. Tells whether there is something left to be done. -/
def cutAt (m : Mark) : (times : Nat) → (k : Nat) → CutM Bool
  | 0, _ => return true
  | n + 1, k => do
    let goes ← match m.limit with
      | .line line => do
        cutAtLine s line k
        pure true
      | .found r offset leftOut => cutAtMatch s m r offset leftOut k
    if goes then cutAt m n (k + 1) else return false

def cutAtAll : List Mark → CutM Unit
  | [] => do
    openPiece s
    saveRest
    closePiece s
  | m :: rest => do
    let most := (← get).rest.length + 2
    if ← cutAt s m ((m.repeats.map (· + 1)).getD most) 0 then cutAtAll rest

end

/-- The number of repetitions in an operand. -/
def readRepeats (o : Octets) : ShellM (Option Nat) := do
  if o.getLast? ≠ some '\x7d' then stop 1 (quoted o ++ ": '\x7d' is required in repeat count".toList)
  let inner := (o.drop 1).dropLast
  if inner = ['*'] then return none
  else match plainNumber? inner with
    | some n => return some n
    | none => stop 1 (quoted o.dropLast ++ "\x7d: integer required between '\x7b' and '\x7d'".toList)

/-- A mark between delimiters, with how far from it the piece ends. -/
def readFound (o : Octets) : ShellM Limit := do
  let delimiter := o.headD '/'
  let body := o.drop 1
  let behind := (body.reverse.takeWhile (· != delimiter)).reverse
  if behind.length = body.length then
    stop 1 (o ++ ": closing delimiter '".toList ++ delimiter :: "' missing".toList)
  let pattern := body.take (body.length - behind.length - 1)
  match Regex.ofText? false false pattern with
  | .error message => stop 1 (quoted o ++ ": invalid regular expression: ".toList ++ message.toList)
  | .ok r =>
    if behind = [] then return .found r 0 (delimiter = '%')
    else match signedNumber? behind with
      | some n => return .found r n (delimiter = '%')
      | none => stop 1 (quoted o ++ ": integer expected after delimiter".toList)

/-- Operands, each with the number of repetitions that stands behind it. -/
def withRepeats : List Octets → List (Octets × Option Octets)
  | [] => []
  | o :: ('\x7b' :: count) :: rest => (o, some ('\x7b' :: count)) :: withRepeats rest
  | o :: rest => (o, none) :: withRepeats rest

/-- The mark that an operand stands for, and the last line that was counted to. -/
def readMark (before : Nat) (o : Octets) (count : Option Octets) : ShellM (Mark × Nat) := do
  let isFound := o.head? = some '/' || o.head? = some '%'
  let limit ← if isFound then readFound o else
    match plainNumber? o with
    | none => stop 1 (quoted o ++ ": invalid pattern".toList)
    | some 0 => stop 1 (o ++ ": line number must be greater than zero".toList)
    | some n =>
      if n < before then
        stop 1 ("line number ".toList ++ quoted o ++ " is smaller than preceding line number, ".toList ++
          Text.ofNat before)
      if n = before then
        grumble ("warning: line number ".toList ++ quoted o ++ " is the same as preceding line number".toList)
      pure (.line n)
  let before := match limit with
    | .line n => n
    | .found _ _ _ => before
  let repeats ← match count with
    | some c => readRepeats c
    | none => pure (some 0)
  return ({ text := o, limit, repeats }, before)

def readMarks (operands : List Octets) : ShellM (List Mark) := do
  let (marks, _) ← (withRepeats operands).foldlM (fun ((marks : List Mark), before) (o, count) => do
    let (m, before) ← readMark before o count
    return (m :: marks, before)) ([], 0)
  return marks.reverse

/-- Check a format for the numbers of files: it has one conversion, of a number. -/
def checkSuffix : (steps : Nat) → (found : Bool) → Octets → ShellM Unit
  | 0, _, _ => return
  | _, found, [] => if found then return else stop 1 "missing % conversion specification in suffix".toList
  | _, _, ['%'] => stop 1 "missing conversion specifier in suffix".toList
  | n + 1, found, '%' :: '%' :: r => checkSuffix n found r
  | n + 1, found, '%' :: c :: r => do
    if found then stop 1 "too many % conversion specifications in suffix".toList
    let marks := (c :: r).takeWhile fun c => "-0'#".toList.contains c
    let r := (c :: r).drop marks.length
    let r := r.dropWhile Char.isDigit
    let r := if r.head? = some '.' then (r.drop 1).dropWhile Char.isDigit else r
    match r with
    | [] => stop 1 "missing conversion specifier in suffix".toList
    | kind :: _ =>
      if !"diuoxX".toList.contains kind then
        stop 1 ("invalid conversion specifier in suffix: ".toList ++ [kind])
      let bad := if "diu".toList.contains kind then '#' else '\''
      if marks.contains bad then
        stop 1 ("invalid flags in conversion specification: %".toList ++ [bad, kind])
      checkSuffix n true r.tail
  | n + 1, found, _ :: r => checkSuffix n found r

def csplit : Utility := fun _ args => do
  let g ← given (forms [('k', "keep-files"), ('s', "quiet"), ('s', "silent"), ('z', "elide-empty-files"),
    ('\x01', "suppress-matched")] [('b', "suffix-format"), ('f', "prefix"), ('n', "digits")]) args
  let digits ← match g.value? 'n' with
    | none => pure 2
    | some v =>
      match plainNumber? v with
      | some n => pure n
      | none => stop 1 ("invalid number: ".toList ++ quoted v)
  match g.operands with
  | [] => misuse 1 "missing operand".toList
  | [o] => misuse 1 ("missing operand after ".toList ++ quoted o)
  | name :: operands =>
    let front := (g.value? 'f').getD "xx".toList
    let suffix := g.value? 'b'
    match suffix with
    | some f => checkSuffix (f.length + 1) false f
    | none => pure ()
    let nameOf (n : Nat) : Octets :=
      let number := Text.ofNat n
      match suffix with
      | some f =>
        let literal := f.flatMap fun c => if c = '\\' then [c, c] else [c]
        front ++ (Format.apply .program literal [number]).output
      | none => front ++ List.replicate (digits - number.length) '0' ++ number
    let isMissing ← match ← openOperand name with
      | .ok _ => pure none
      | .error e => pure (some e)
    match isMissing with
    | some e => stop 1 ("cannot open ".toList ++ quoted name ++ " for reading: ".toList ++ e.wording.toList)
    | none => pure ()
    let marks ← readMarks operands
    let s : CutStyle := {
      nameOf, keeps := g.has 'k', isQuiet := g.has 's', elides := g.has 'z', dropsMatches := g.has '\x01' }
    match ← readOperand name with
    | .error e =>
      let failing : CutM Unit := do
        openPiece s
        tell ("read error: ".toList ++ e.wording.toList)
        giveUpCutting s
      let _ ← failing.run { rest := [] }
      return 1
    | .ok o =>
      let _ ← (cutAtAll s marks).run { rest := fullLines '\n' o }
      return 0

end Dividing

end KarelBuild.Shell.Utility
