import KarelBuild.Shell.Utility.Edit.Reading
import KarelBuild.Shell.Utility.Running
import KarelBuild.Shell.Utility.Streams

/-!
# The stream editor

Each line is put into the pattern space, the commands that are for it are carried out, and the pattern
space is written. A second space keeps text from line to line.
-/

namespace KarelBuild.Shell.Edit

open ShellM

/-! ## The state of a run -/

/-- A line to be read: what is in it, whether it is ended, and the file that it is from. -/
structure InputLine where
  text : Octets
  ended : Bool
  file : Octets

/-- Whether a range is open, and the line that ends it, if that is known. -/
structure RangeState where
  isOpen : Bool := false
  last : Option Nat := none
  deriving Inhabited

/-- How a script is run: whether lines are written on their own, what ends a line, how wide lines are shown, and
whether what is written is kept for a file or goes out, at once or later. -/
structure EditStyle where
  quiet : Bool := false
  mark : Char := '\n'
  width : Nat := 70
  keeps : Bool := false
  unbuffered : Bool := false
  inPlace : Bool := false

structure Editing where
  style : EditStyle
  pattern : Octets := []
  hold : Octets := []
  /-- Whether the line in the pattern space, and the one that is kept, has its end. -/
  ended : Bool := true
  holdEnded : Bool := true
  file : Octets := ['-']
  number : Nat := 0
  /-- Lines that have been read and not used, the file that is being read with what is left of a line, and
  the files to come. -/
  lines : List InputLine := []
  opened : Option (Octets × Nat) := none
  carry : Octets := []
  sources : List Octets := []
  code : Nat := 0
  /-- What has been written and is kept, the last piece first. -/
  back : List Octets := []
  /-- The last line was written without its end. -/
  lacksEnd : Bool := false
  /-- What is to be written behind the line: a text, or the next line of a file. -/
  queue : List Octets := []
  changed : Bool := false
  ranges : Array RangeState := #[]
  lastRegex : Option Regex := none
  files : List (Octets × Nat) := []
  /-- Files of which a line is read at a time. -/
  lineFiles : List (Octets × Option Nat) := []
  /-- The files whose last line was written without its end. -/
  filesLackingEnd : List Octets := []

/-- How the commands for a line end: all are done, or the line is dropped, or what is left of it is
gone through again, or nothing is read any more. -/
inductive Stop where
  | done
  | nextLine
  | sameLine
  | quit (prints : Bool) (code : Nat)

abbrev EditM := StateT Editing ShellM

/-- Write a text behind all that was written. -/
def write (o : Octets) : EditM Unit := do
  let s ← get
  let o := if s.lacksEnd then s.style.mark :: o else o
  set { s with lacksEnd := false, back := if s.style.keeps then o :: s.back else [] }
  if !s.style.keeps then
    if s.style.unbuffered then Utility.emitNow o else Utility.emit o

/-- Write a line, whose end is missing if it was missing in the input. -/
def writeLine (o : Octets) : EditM Unit := do
  let s ← get
  if s.ended then write (o ++ [s.style.mark])
  else
    write o
    modify fun s => { s with lacksEnd := true }

def flushQueue : EditM Unit := do
  let s ← get
  if s.queue ≠ [] then
    modify fun s => { s with queue := [] }
    s.queue.forM write

/-! ## Reading -/

/-- Complain; what has been written may come later. -/
def tell (message : Octets) : ShellM Unit := do
  say 2 ((← Utility.programName) ++ ": ".toList ++ message ++ ['\n'])

/-- End the program because something cannot be done. -/
def giveUp {α : Type} (message : Octets) : ShellM α := do
  tell message
  exit 4

/-- Open the next file that can be read; tells whether there is one. -/
def openNext : (steps : Nat) → EditM Bool
  | 0 => return false
  | k + 1 => do
    let s ← get
    match s.sources with
    | [] => return false
    | name :: sources =>
      set { s with sources }
      match ← Utility.openOperand name with
      | .error .badDescriptor => giveUp "read error on stdin: Bad file descriptor".toList
      | .error e =>
        tell ("can't read ".toList ++ name ++ ": ".toList ++ e.wording.toList)
        modify fun s => { s with code := 2 }
        openNext k
      | .ok n =>
        match ← targetOf n with
        | some (.dir _) =>
          if s.style.inPlace then giveUp ("couldn't edit ".toList ++ name ++ ": not a regular file".toList)
          else giveUp ("read error on ".toList ++ name ++ ": Is a directory".toList)
        | _ =>
          modify fun s => { s with opened := some (name, n), carry := [] }
          return true

/-- Have a line to read next, if one is left. -/
def fetch : (tries : Nat) → EditM Unit
  | 0 => return
  | k + 1 => do
    let s ← get
    if s.lines ≠ [] then return
    else match s.opened with
      | none => if ← openNext (s.sources.length + 1) then fetch k
      | some (name, n) =>
        match ← Utility.takeBlock n with
        | .error e => giveUp ("read error on ".toList ++ name ++ ": ".toList ++ e.wording.toList)
        | .ok [] =>
          let last := if s.carry = [] then [] else [⟨s.carry, false, name⟩]
          set { s with opened := none, carry := [], lines := last }
          fetch k
        | .ok o =>
          let (lines, carry) := Utility.wholeLines s.style.mark (s.carry ++ o)
          set { s with lines := lines.map fun (t, ended) => ⟨t, ended, name⟩, carry }
          fetch k

/-- Whether no line is left to be read. -/
def isAtEnd : EditM Bool := do
  fetch Utility.maxBlocks
  return (← get).lines.isEmpty

/-- Take the next line of the input; tells whether there is one. -/
def readLine (appends : Bool) : EditM Bool := do
  fetch Utility.maxBlocks
  let s ← get
  match s.lines with
  | [] => return false
  | l :: lines =>
    set { s with
      pattern := if appends then s.pattern ++ s.style.mark :: l.text else l.text
      ended := l.ended, file := l.file, number := s.number + 1
      changed := false, lines }
    return true

/-- Leave lines that have been read for those who read next. -/
def leaveRest : EditM Unit := do
  let s ← get
  match s.opened with
  | some (_, n) =>
    let unused := s.lines.map fun l => l.text.length + if l.ended then 1 else 0
    Utility.unreadBytes n (sumOf unused + s.carry.length)
  | none => return

/-! ## Addresses -/

def search (r : Option Regex) (o : Octets) : EditM (Option Regex.Match) := do
  let s ← get
  match r.or s.lastRegex with
  | none => Utility.stop 1 "-e expression #1, char 0: no previous regular expression".toList
  | some r =>
    set { s with lastRegex := some r }
    return r.search o

def isAt (a : Address) : EditM Bool := do
  let s ← get
  match a with
  | .line n => return s.number = n
  | .last => isAtEnd
  | .step first by_ =>
    if by_ = 0 then return s.number = first
    else return first ≤ s.number && (s.number - first) % by_ = 0
  | .regex r => return (← search r s.pattern).isSome

def setRange (i : Nat) (r : RangeState) : EditM Unit :=
  modify fun s => { s with ranges := s.ranges.set! i r }

/-- Whether a range that begins here is more than this line, and where it ends. -/
def openRange (i : Nat) (e : RangeEnd) : EditM Unit := do
  let n := (← get).number
  let close (last : Nat) : EditM Unit := if n < last then setRange i ⟨true, some last⟩ else return
  match e with
  | .address (.line last) => close last
  | .address _ => setRange i ⟨true, none⟩
  | .after k => close (n + k)
  | .multiple k => close (if k = 0 then n else (n + k - 1) / k * k)

def isFor (i : Nat) (c : Command) : EditM Bool := do
  match c.first with
  | none => return true
  | some first =>
    match c.last with
    | none => isAt first
    | some e =>
      let s ← get
      let r := s.ranges.getD i {}
      if r.isOpen then
        match r.last with
        | some last =>
          if last ≤ s.number then setRange i {}
          if s.number ≤ last then return true else isAt first
        | none =>
          let ends ← match e with
            | .address a => isAt a
            | _ => pure false
          if ends then setRange i {}
          return true
      else if ← isAt first then
        openRange i e
        return true
      else return false

/-! ## Substitution -/

/-- The case that letters are brought to: for all that follows, and for the next one. -/
structure Casing where
  all : Option Bool := none
  next : Option Bool := none

def cased (k : Casing) (o : Octets) : Octets × Casing :=
  let apply (upper : Option Bool) (c : Char) : Char := match upper with
    | some true => c.toUpper
    | some false => c.toLower
    | none => c
  match o with
  | [] => ([], k)
  | c :: r => (apply (k.next.or k.all) c :: r.map (apply k.all), { k with next := none })

def assemble (m : Regex.Match) (whole : Octets) : Casing → List Piece → Octets
  | _, [] => []
  | k, .case_ c :: rest =>
    let k := match c with
      | 'U' => { k with all := some true }
      | 'L' => { k with all := some false }
      | 'E' => { all := none, next := none }
      | 'u' => { k with next := some true }
      | _ => { k with next := some false }
    assemble m whole k rest
  | k, .text o :: rest =>
    let (o, k) := cased k o
    o ++ assemble m whole k rest
  | k, .group n :: rest =>
    let o := if n = 0 then whole else (m.groupText n).getD []
    let (o, k) := cased k o
    o ++ assemble m whole k rest

/-- The text with some matches replaced. -/
def rewrite (pieces : List Piece) (o : Octets) : (at_ : Nat) → List Regex.Match → Octets
  | at_, [] => o.drop at_
  | at_, m :: ms =>
    let whole := (o.drop m.start).take m.length
    (o.take m.start).drop at_ ++ assemble m whole {} pieces ++ rewrite pieces o (m.start + m.length) ms

/-- Write a line to a file. -/
def writeFile (path o : Octets) : EditM Unit := do
  let s ← get
  let text := if s.ended then o ++ [s.style.mark] else o
  if path = "/dev/stdout".toList then
    if s.style.keeps then Utility.emit text else writeLine o
  else if path = "/dev/stderr".toList then say 2 text
  else
    match s.files.lookup path with
    | some n =>
      let lead := if s.filesLackingEnd.contains path then [s.style.mark] else []
      let _ ← writeTo n (lead ++ text)
      let others := s.filesLackingEnd.filter (· != path)
      set { s with filesLackingEnd := if s.ended then others else path :: others }
    | none => return

def substitute (u : Substitution) : EditM Unit := do
  let s ← get
  match u.regex.or s.lastRegex with
  | none => Utility.stop 1 "-e expression #1, char 0: no previous regular expression".toList
  | some r =>
    set { s with lastRegex := some r }
    let ms := if u.all ∨ u.number > 1 then (r.allMatches s.pattern).drop (u.number - 1)
      else (r.search s.pattern).toList
    let ms := if u.all then ms else ms.take 1
    if ms ≠ [] then
      modify fun s => { s with pattern := rewrite u.pieces s.pattern 0 ms, changed := true }
      if u.runs then
        Utility.flush
        let (o, _) ← Utility.outputInShell (← get).pattern
        modify fun s => { s with pattern := if o.getLast? = some s.style.mark then o.dropLast else o }
      let t := (← get).pattern
      if u.prints then writeLine t
      match u.file with
      | some path => writeFile path t
      | none => return

/-! ## Commands -/

/-- A line as `l` shows it, in pieces with a backslash at their ends. -/
def displayed (width : Nat) (o : Octets) : Octets :=
  let items := o.map fun c =>
    match [('\\', "\\\\"), ('\x07', "\\a"), ('\x08', "\\b"), ('\x0c', "\\f"), ('\n', "\\n"), ('\r', "\\r"),
        ('\t', "\\t"), ('\x0b', "\\v")].lookup c with
    | some t => t.toList
    | none => if Utility.isPrintable c then [c] else Utility.octalDigits c
  let (back, _) := items.foldl (fun (back, column) i =>
    if width > 0 ∧ column + i.length > width - 1 then (i :: "\\\n".toList :: back, i.length)
    else (i :: back, column + i.length)) (([] : List Octets), 0)
  back.reverse.flatten ++ ['$', '\n']

def labelIndex (cs : Array Command) (name : Octets) : Nat :=
  if name = [] then cs.size
  else (cs.findIdx? fun c => c.labelName == name && c.action matches .label).getD cs.size

def readQueued (path : Octets) : EditM Unit := do
  match ← (if path = "/dev/stdin".toList then Utility.readOperand ['-'] else do
      match ← openPath path .reads with
      | .ok n =>
        match ← takeAll n with
        | .ok (.text o) => return .ok o
        | _ => return .error .invalid
      | .error e => return .error e) with
  | .ok o => if o ≠ [] then modify fun s => { s with queue := s.queue ++ [o] }
  | .error _ => return

/-- Have the next line of a file written behind the line. -/
def readLineQueued (path : Octets) : EditM Unit := do
  let s ← get
  let opened ← match s.lineFiles.lookup path with
    | some n => pure n
    | none => do
      let n ← openPath path .reads
      modify fun s => { s with lineFiles := (path, n.toOption) :: s.lineFiles }
      pure n.toOption
  match opened with
  | none => return
  | some n =>
    match ← takeLine n with
    | .ok [] => return
    | .ok line =>
      let line := if line.getLast? = some '\n' then line else line ++ ['\n']
      modify fun s => { s with queue := s.queue ++ [line] }
    | .error _ => return

/-- Write what a command writes in front of the line. -/
def runBefore (command : Octets) : EditM Unit := do
  Utility.flush
  let (o, _) ← Utility.outputInShell command
  write o

/-- Carry out a command; gives what comes next: another command, or the end of the line. -/
def perform (cs : Array Command) (i : Nat) (c : Command) : EditM (Nat ⊕ Stop) := do
  let s ← get
  let go : EditM (Nat ⊕ Stop) := return .inl (i + 1)
  match c.action with
  | .block _ => go
  | .closing => go
  | .label => go
  | .append o =>
    modify fun s => { s with queue := s.queue ++ [o] }
    go
  | .insert o =>
    write o
    go
  | .change o =>
    let isInside := c.last.isSome && !c.negated && (s.ranges.getD i {}).isOpen
    if !isInside then write o
    return .inr .nextLine
  | .jump name => return .inl (labelIndex cs name)
  | .jumpIfChanged expected name =>
    set { s with changed := false }
    return .inl (if s.changed = expected then labelIndex cs name else i + 1)
  | .delete => return .inr .nextLine
  | .deleteLine =>
    match Text.cut s.style.mark s.pattern with
    | (_, some rest) =>
      set { s with pattern := rest }
      return .inr .sameLine
    | _ => return .inr .nextLine
  | .print =>
    writeLine s.pattern
    go
  | .printLine =>
    write ((Text.cut s.style.mark s.pattern).1 ++ [s.style.mark])
    go
  | .next =>
    if ← isAtEnd then return .inr (.quit true 0)
    else
      if !s.style.quiet then writeLine s.pattern
      flushQueue
      let _ ← readLine false
      go
  | .nextAppended =>
    if ← isAtEnd then return .inr (.quit true 0)
    else
      flushQueue
      let _ ← readLine true
      go
  | .take appends =>
    set { s with
      pattern := if appends then s.pattern ++ s.style.mark :: s.hold else s.hold, ended := s.holdEnded }
    go
  | .keep appends =>
    set { s with
      hold := if appends then s.hold ++ s.style.mark :: s.pattern else s.pattern, holdEnded := s.ended }
    go
  | .exchange =>
    set { s with pattern := s.hold, hold := s.pattern, ended := s.holdEnded, holdEnded := s.ended }
    go
  | .number =>
    write (Text.ofNat s.number ++ ['\n'])
    go
  | .display width =>
    write (displayed (width.getD s.style.width) s.pattern)
    go
  | .run [] =>
    Utility.flush
    let (o, _) ← Utility.outputInShell s.pattern
    set { s with pattern := if o.getLast? = some s.style.mark then o.dropLast else o }
    go
  | .run command =>
    runBefore command
    go
  | .quit prints code =>
    if !prints then modify fun s => { s with queue := [] }
    return .inr (.quit prints code)
  | .readFile path =>
    readQueued path
    go
  | .readFileLine path =>
    readLineQueued path
    go
  | .writeFile path =>
    writeFile path s.pattern
    go
  | .writeFirstLine path =>
    set { s with ended := true }
    writeFile path (Text.cut s.style.mark s.pattern).1
    modify fun t => { t with ended := s.ended }
    go
  | .translate pairs =>
    set { s with pattern := s.pattern.map fun c => (pairs.lookup c).getD c }
    go
  | .substitute u =>
    substitute u
    go
  | .empty =>
    set { s with pattern := [] }
    go
  | .fileName =>
    write (s.file ++ ['\n'])
    go

/-- Carry out the commands from one on. -/
def performFrom (cs : Array Command) : (steps : Nat) → Nat → EditM Stop
  | 0, _ => return .quit false 0
  | n + 1, i => do
    match cs[i]? with
    | none => return .done
    | some c =>
      let next ← if (← isFor i c) != c.negated then perform cs i c
        else match c.action with
          | .block size => pure (.inl (i + size + 1))
          | _ => pure (.inl (i + 1))
      match next with
      | .inl j => performFrom cs n j
      | .inr stop => return stop

def maxCommands : Nat := 0x100000

/-- Write the pattern space at the end of a line, unless that is not wanted. -/
def writePattern : EditM Unit := do
  let s ← get
  if !s.style.quiet then writeLine s.pattern

/-- Go through all lines. Gives the exit code, if the script asked for an end. -/
def cycles (cs : Array Command) : (steps : Nat) → (fresh : Bool) → EditM (Option Nat)
  | 0, _ => return none
  | n + 1, fresh => do
    let isThere ← if fresh then readLine false else pure true
    if !isThere then return none
    else
      match ← performFrom cs maxCommands 0 with
      | .done =>
        writePattern
        flushQueue
        cycles cs n true
      | .nextLine =>
        flushQueue
        cycles cs n true
      | .sameLine =>
        flushQueue
        cycles cs n false
      | .quit prints code =>
        if prints then writePattern
        flushQueue
        leaveRest
        return some code

/-! ## The utility -/

/-- How many lines there are at most. -/
def maxLines : Nat := 0x1000000000

/-- Run a script on files. Gives what is kept of what it writes, its exit code, and whether it asked for an
end. -/
def editFiles (style : EditStyle) (cs : Array Command) (files : List (Octets × Nat)) (sources : List Octets) :
    ShellM (Octets × Nat × Bool) := do
  let ranges := cs.map fun c => { isOpen := c.fromZero : RangeState }
  let (code, s) ← (cycles cs maxLines true).run { style, sources, ranges, files }
  return (s.back.reverse.flatten, code.getD s.code, code.isSome)

/-- A part of a script, and the file that it is from. -/
structure Chunk where
  text : Octets
  file : Option Octets := none

/-- Where a number of characters ends in the parts of a script: the part, its number among those that are no
files, and what of it stands in front. -/
def locate (chunks : List Chunk) (used : Nat) : Option Chunk × Nat × Octets :=
  go 1 used chunks
where
  go : Nat → Nat → List Chunk → Option Chunk × Nat × Octets
    | k, used, [c] => (some c, k, c.text.take used)
    | k, used, c :: rest =>
      if used ≤ c.text.length then (some c, k, c.text.take used)
      else go (if c.file.isSome then k else k + 1) (used - c.text.length - 1) rest
    | k, _, [] => (none, k, [])

def readScript (extended hasLines : Bool) (chunks : List Chunk) : ShellM (Array Command) := do
  let text := Text.join ['\n'] (chunks.map Chunk.text)
  match script extended hasLines text with
  | .ok cs => return cs
  | .error m =>
    let (chunk, k, front) := locate chunks (match m.unread with
      | some unread => text.length - unread
      | none => 0)
    match chunk.bind Chunk.file with
    | some file =>
      let line := front.countP (· == '\n') + if front.getLast? = some '\n' then 0 else 1
      Utility.stop 1 ("file ".toList ++ file ++ " line ".toList ++ Text.ofNat line ++ ": ".toList ++ m.message)
    | none =>
      Utility.stop 1 ("-e expression #".toList ++ Text.ofNat k ++ ", char ".toList ++ Text.ofNat front.length ++
        ": ".toList ++ m.message)

/-- The first label that a jump names and no command has. -/
def missingLabel? (cs : Array Command) : Option Octets :=
  cs.toList.findSome? fun c =>
    let name := match c.action with
      | .jump name => name
      | .jumpIfChanged _ name => name
      | _ => []
    if name = [] ∨ cs.any (fun d => d.labelName == name) then none else some name

def openFiles (cs : Array Command) : ShellM (List (Octets × Nat)) := do
  let paths := cs.toList.filterMap fun c => match c.action with
    | .writeFile path => some path
    | .writeFirstLine path => some path
    | .substitute u => u.file
    | _ => none
  let isStandard (path : Octets) : Bool := path == "/dev/stdout".toList || path == "/dev/stderr".toList
  ((Text.distinct paths).filter (!isStandard ·)).mapM fun path => do
    match ← openPath path .writes with
    | .ok n => return (path, n)
    | .error e => giveUp ("couldn't open file ".toList ++ path ++ ": ".toList ++ e.wording.toList)

def sed : Utility := fun _ args => do
  let fs := Utility.forms [('n', "quiet"), ('n', "silent"), ('E', "regexp-extended"), ('r', ""),
    ('s', "separate"), ('u', "unbuffered"), ('z', "null-data"), ('\x01', "posix"), ('\x02', "debug"),
    ('\x03', "sandbox")] [('e', "expression"), ('f', "file"), ('l', "line-length")] ++
    [⟨'i', "in-place", .maybe⟩]
  let g ← Utility.readGivenWith " [OPTION]... \x7bscript-only-if-no-other-script\x7d [input-file]..." fs 1 true args
  let parts ← (g.options.filter fun o => o.1 == 'e' || o.1 == 'f').mapM fun (c, v) => do
    if c = 'e' then return ({ text := v } : Chunk)
    else match ← Utility.readOperand v with
      | .ok o => return ⟨if o.getLast? = some '\n' then o.dropLast else o, some v⟩
      | .error e => giveUp ("couldn't open file ".toList ++ v ++ ": ".toList ++ e.wording.toList)
  let (chunks, operands) ← if parts ≠ [] then pure (parts, g.operands)
    else match g.operands with
      | t :: rest => pure ([{ text := t }], rest)
      | [] =>
        say 2 ("Usage: ".toList ++ (← Utility.programName) ++
          " [OPTION]... \x7bscript-only-if-no-other-script\x7d [input-file]...\n\n".toList)
        exit 1
  let cs ← readScript (g.has 'E' || g.has 'r') (!g.has 'z') chunks
  if let some name := missingLabel? cs then
    giveUp ("can't find label for jump to \x60".toList ++ name ++ ['\''])
  let files ← openFiles cs
  let inPlace := g.value? 'i'
  let width ← match g.value? 'l' with
    | none => pure 70
    | some t =>
      if Utility.isNumber t then pure (Utility.digitsValue t)
      else Utility.stop 1 ("invalid line length: ".toList ++ t)
  let style : EditStyle := {
    quiet := g.has 'n' || (chunks.head?.any fun c => "#n".toList.isPrefixOf c.text)
    mark := if g.has 'z' then '\x00' else '\n'
    width, keeps := inPlace.isSome, unbuffered := g.has 'u', inPlace := inPlace.isSome }
  let names := if operands = [] then [['-']] else operands
  match inPlace with
  | some suffix => editInPlace style cs files suffix names 0
  | none =>
    if g.has 's' then editEach style cs files names 0
    else
      let (_, code, _) ← editFiles style cs files names
      return code
where
  /-- Edit files, each on its own. -/
  editEach (style : EditStyle) (cs : Array Command) (files : List (Octets × Nat)) :
      List Octets → (code : Nat) → ShellM Nat
    | [], code => return code
    | name :: rest, code => do
      let (_, c, isOver) ← editFiles style cs files [name]
      if isOver then return c else editEach style cs files rest (if c ≠ 0 then c else code)
  /-- Give files what the script makes of them, and keep copies of them under other names. -/
  editInPlace (style : EditStyle) (cs : Array Command) (files : List (Octets × Nat)) (suffix : Octets) :
      List Octets → (code : Nat) → ShellM Nat
    | [], code => return code
    | name :: rest, code => do
      let before ← if name = ['-'] then pure (.error .noEntry) else Utility.readOperand name
      let found ← Utility.stat? name
      let (out, c, isOver) ← editFiles style cs files [name]
      let code := if c ≠ 0 then c else code
      match before, found with
      | .ok o, .ok (target, .file _ _) =>
        let place := ((← Utility.statLink? name).toOption.map (·.1)).getD target
        let mode := ((← Utility.status? true name).toOption.map Status.mode).getD 0o644
        if suffix ≠ [] then
          let base := Utility.lastName name
          let backup := if suffix.contains '*' then suffix.flatMap fun c => if c = '*' then base else [c]
            else base ++ suffix
          let backup := if backup.contains '/' ∨ !name.contains '/' then backup
            else name.take (name.length - base.length) ++ backup
          match ← openPath backup .writes with
          | .ok n =>
            let _ ← writeTo n o
            Utility.setMode backup mode
          | .error _ => pure ()
        -- The file is a new one under the old name.
        modifyWorld fun w => w.detach place
        setTree ((← world).tree.erase place)
        match ← openPath name .writes with
        | .ok n =>
          let _ ← writeTo n out
          Utility.setMode name mode
        | .error e => Utility.grumble (Utility.reason name e)
      | _, _ => pure ()
      if isOver then return c else editInPlace style cs files suffix rest code

end KarelBuild.Shell.Edit
