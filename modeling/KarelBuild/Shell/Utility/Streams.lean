import KarelBuild.Shell.Regex.Reading
import KarelBuild.Shell.Utility.Basic

/-!
# Copying and cutting streams

Utilities that pass their input on: all of it, its beginning or its end, its lines the other way
round, or numbered.
-/

namespace KarelBuild.Shell.Utility

open ShellM

/-! ## Copying -/

/-- What `cat` makes visible. -/
structure Display where
  numbers : Option Bool := none
  squeezes : Bool := false
  ends : Bool := false
  tabs : Bool := false
  others : Bool := false

namespace Display

def isPlain (d : Display) : Bool := d.numbers.isNone && !d.squeezes && !d.ends && !d.tabs && !d.others

/-- A byte that cannot be printed, with a caret or as a letter of the upper half. -/
def visible (c : Char) : Octets :=
  let low (c : Char) : Octets :=
    if c < ' ' then ['^', Char.ofNat (c.toNat + 64)]
    else if c = '\x7f' then ['^', '?'] else [c]
  if c.toNat < 128 then low c else 'M' :: '-' :: low (Char.ofNat (c.toNat - 128))

def char (d : Display) (c : Char) : Octets :=
  if c = '\t' then if d.tabs then ['^', 'I'] else ['\t']
  else if d.others then visible c else [c]

end Display

/-- How far a text has been made visible: the last number, how many empty lines came before, and whether
a line begins. -/
structure DisplayState where
  number : Nat := 0
  blanks : Nat := 0
  atStart : Bool := true

/-- Make a line visible, of which `ended` tells whether it is whole. -/
def Display.line (d : Display) (s : DisplayState) (line : Octets) (ended : Bool) : Octets × DisplayState :=
  let isBlank := s.atStart && line.isEmpty && ended
  if d.squeezes ∧ isBlank ∧ s.blanks > 0 then ([], { s with blanks := s.blanks + 1 })
  else
    let counts := s.atStart && (match d.numbers with
      | none => false
      | some all => all || !isBlank)
    let number := if counts then s.number + 1 else s.number
    let lead := if counts then padLeft 6 (Text.ofNat number) ++ ['\t'] else []
    let isReturn := d.ends && !d.others && ended && line.getLast? == some '\r'
    let body := if isReturn then line.dropLast.flatMap d.char ++ ['^', 'M'] else line.flatMap d.char
    let stop := if ended then (if d.ends then ['$', '\n'] else ['\n']) else []
    (lead ++ body ++ stop, ⟨number, if isBlank then s.blanks + 1 else 0, ended⟩)

/-- Lines, each with whether it is ended. -/
def endedLines (o : Octets) : List (Octets × Bool) :=
  let (lines, rest) := wholeLines '\n' o
  if rest = [] then lines else lines ++ [(rest, false)]

/-- Whether what is read would be what is written. -/
def isOwnOutput (n : Nat) : ShellM Bool := do
  let input ← targetOf n
  let w ← world
  match (← shell).opened? 1 with
  | none => return false
  | some out =>
    match input, (w.opened[out]?).map Opened.target with
    | some (.file place), some (.file other) =>
      return w.namesOf place == w.namesOf other &&
        ((w.opened[n]?).map Opened.offset).getD 0 < w.sizeOf (.file place)
    | _, _ => return false

def catOne (d : Display) (s : DisplayState) (name : Octets) : ShellM (Option DisplayState) := do
  match ← openOperand name with
  | .error e =>
    grumble (reason name e)
    return none
  | .ok n =>
    if ← isOwnOutput n then
      grumble (named name ++ ": input file is output file".toList)
      return none
    else
      let step (s : DisplayState) (o : Octets) : ShellM (DisplayState × Bool) := do
        if d.isPlain then
          emitNow o
          return (s, false)
        else
          let (back, s) := (endedLines o).foldl (fun (back, s) (l, ended) =>
            let (o, s) := d.line s l ended
            (o :: back, s)) (([] : List Octets), s)
          emitNow back.reverse.flatten
          return (s, false)
      match ← eachBlock n step maxBlocks s with
      | .ok s => return some s
      | .error e =>
        grumble (reason name e)
        return none

def cat : Utility := fun _ args => do
  let g ← given (forms [('A', "show-all"), ('b', "number-nonblank"), ('e', ""), ('E', "show-ends"),
    ('n', "number"), ('s', "squeeze-blank"), ('t', ""), ('T', "show-tabs"), ('u', ""),
    ('v', "show-nonprinting")] []) args
  let d : Display := {
    numbers := if g.has 'b' then some false else if g.has 'n' then some true else none
    squeezes := g.has 's'
    ends := g.has 'E' || g.has 'A' || g.has 'e'
    tabs := g.has 'T' || g.has 'A' || g.has 't'
    others := g.has 'v' || g.has 'A' || g.has 'e' || g.has 't' }
  if (← shell).opened? 1 = none then stop 1 "standard output: Bad file descriptor".toList
  let mut s : DisplayState := {}
  let mut code := 0
  for name in if g.operands = [] then [['-']] else g.operands do
    match ← catOne d s name with
    | some t => s := t
    | none => code := 1
  -- Nothing is left to be read if the standard input has been closed.
  if (← shell).opened? 0 = none ∧ (g.operands = [] ∨ g.operands.contains ['-']) then
    stop 1 "closing standard input: Bad file descriptor".toList
  return code

/-- What is done when something cannot be written: whether that is told of streams that nobody reads, and
whether it ends all. -/
structure TeeMode where
  ignoresPipes : Bool := false
  tellsPipes : Bool := true
  ends : Bool := false

def teeModes : List (String × TeeMode) :=
  [("warn", { ignoresPipes := true }), ("warn-nopipe", { ignoresPipes := true, tellsPipes := false }),
    ("exit", { ignoresPipes := true, ends := true }),
    ("exit-nopipe", { ignoresPipes := true, tellsPipes := false, ends := true })]

def teeMode (g : Given) : ShellM TeeMode := do
  match g.last? "p\x01", g.value? '\x01' with
  | some '\x01', some t =>
    match if t = [] then some (teeModes.getD 1 ("", {})) else teeModes.find? (·.1.toList == t) with
    | some (_, m) => return m
    | none =>
      grumble ("invalid argument ".toList ++ quoted t ++ " for '--output-error'".toList)
      say 2 ("Valid arguments are:\n".toList ++ (teeModes.flatMap fun (w, _) => "  - '".toList ++ w.toList ++ "'\n".toList))
      say 2 ("Try '".toList ++ (← programName) ++ " --help' for more information.\n".toList)
      exit 1
  | some 'p', _ => return { ignoresPipes := true, tellsPipes := false }
  | _, _ => return {}

/-- Write a portion to everything that could be written to so far. -/
def writeEach (m : TeeMode) (o : Octets) : (targets : List (Octets × Nat)) → (code : Nat) →
    ShellM (List (Octets × Nat) × Nat)
  | [], code => return ([], code)
  | (name, n) :: rest, code => do
    match ← writeTo n o with
    | .ok () =>
      let (kept, code) ← writeEach m o rest code
      return ((name, n) :: kept, code)
    | .error e =>
      let isQuiet := e = .brokenPipe ∧ !m.tellsPipes
      if !isQuiet then
        grumble (name ++ ": ".toList ++ e.wording.toList)
        if m.ends then exit 1
      writeEach m o rest (if isQuiet then code else 1)

/-- Write the input to files as well. -/
def tee : Utility := fun _ args => do
  let g ← given (forms [('a', "append"), ('i', "ignore-interrupts"), ('p', "")] [] ++
    [⟨'\x01', "output-error", .maybe⟩]) args
  let mode ← teeMode g
  if mode.ignoresPipes then modifyShell fun p => { p with traps := (13, []) :: p.traps }
  let mut code := 0
  let mut targets : List (Octets × Nat) := []
  for name in g.operands do
    match ← openPath name (if g.has 'a' then .appends else .writes) with
    | .ok n => targets := targets ++ [(named name, n)]
    | .error e =>
      grumble (reason name e)
      code := 1
      if mode.ends then exit 1
  let out := "'standard output'".toList
  match (← shell).opened? 1 with
  | some n => targets := (out, n) :: targets
  | none => pure ()
  match ← openOperand ['-'] with
  | .error e =>
    grumble ("read error: ".toList ++ e.wording.toList)
    stop 1 ("standard input: ".toList ++ e.wording.toList)
  | .ok n =>
    let isClosed := ((← shell).opened? 1).isNone
    let step (s : List (Octets × Nat) × Nat) (o : Octets) : ShellM ((List (Octets × Nat) × Nat) × Bool) := do
      let (kept, code) ← writeEach mode o s.1 s.2
      return ((kept, code), kept.isEmpty)
    match ← eachBlock n step maxBlocks (targets, code) with
    | .ok s =>
      if isClosed then stop 1 (out ++ ": Bad file descriptor".toList)
      return s.2
    | .error e => stop 1 ("read error: ".toList ++ e.wording.toList)

def yes : Utility := fun _ args => do
  let args := if args.head? = some ['-', '-'] then args.drop 1 else args
  let line := (if args = [] then ['y'] else Text.join [' '] args) ++ ['\n']
  let times := 0x2000 / line.length
  emitForever (List.replicate (max 1 times) line).flatten forever
  return 0

/-! ## Beginnings and ends -/

/-- How much is wanted: lines or bytes, counted from the other end or not. -/
structure Portion where
  bytes : Bool := false
  count : Nat := 10
  opposite : Bool := false
  stop : Char := '\n'

/-- The text up to the end of a number of lines, and how many lines are missing. -/
def firstLines (stop : Char) (count : Nat) (o : Octets) : Octets × Nat :=
  let (length, missing) := go 0 count o
  (if missing = 0 then o.take length else o, missing)
where
  go : (length : Nat) → (count : Nat) → Octets → Nat × Nat
    | length, 0, _ => (length, 0)
    | length, k, [] => (length, k)
    | length, k + 1, c :: r => go (length + 1) (if c = stop then k else k + 1) r

/-- What is left without a number of lines. -/
def afterLines (stop : Char) : (count : Nat) → Octets → Octets
  | 0, o => o
  | _, [] => []
  | n + 1, c :: r => afterLines stop (if c = stop then n else n + 1) r

def lineCount (stop : Char) (o : Octets) : Nat :=
  o.countP (· == stop) + if o = [] ∨ o.getLast? = some stop then 0 else 1

/-- All but the last bytes or lines. -/
def beginning (p : Portion) (o : Octets) : Octets :=
  if p.bytes then o.take (o.length - p.count)
  else (firstLines p.stop (lineCount p.stop o - p.count) o).1

def ending (p : Portion) (o : Octets) : Octets :=
  if p.bytes then o.drop (o.length - p.count)
  else afterLines p.stop (lineCount p.stop o - p.count) o

/-- The portion that options ask for; `mark` stands in front of a count from the other end. -/
def portionOf (mark : Char) (g : Given) : ShellM Portion := do
  let stopMark := if g.has 'z' then '\x00' else '\n'
  match g.options.reverse.find? fun o => o.1 == 'n' || o.1 == 'c' with
  | none => return { stop := stopMark }
  | some (letter, value) =>
    let opposite := value.head? = some mark
    let digits := if value.head? = some '-' ∨ value.head? = some '+' then value.drop 1 else value
    let what := if letter = 'c' then "bytes" else "lines"
    let invalid := "invalid number of ".toList ++ what.toList ++ ": ".toList ++ quoted digits
    match sized? digits with
    | some count =>
      if count < 0x10000000000000000 then return ⟨letter == 'c', count, opposite, stopMark⟩
      else stop 1 (invalid ++ ": Value too large for defined data type".toList)
    | none => stop 1 invalid

/-- Counts in the old form, a sign and a number, as an option. -/
def modernized (isTail : Bool) (sign : Char) (args : List Octets) : ShellM (List Octets) := do
  match args with
  | (c :: ds) :: rest =>
    let letters := ds.dropWhile Char.isDigit
    let digits := ds.takeWhile Char.isDigit
    if c = sign ∧ digits ≠ [] then
      let mark := if c = '+' then ['+'] else []
      let known := if isTail then "bclf" else "bcklmqvz"
      match letters.find? (!known.toList.contains ·) with
      | some bad =>
        if isTail then
          if sign = '-' ∧ rest.length ≤ 1 then stop 1 ("option used in invalid context -- ".toList ++ digits.take 1)
          else return args
        else misuse 1 ("invalid trailing option -- ".toList ++ [bad])
      | none =>
        let unit := if letters.contains 'b' then ['b'] else if letters.contains 'k' then ['k']
          else if letters.contains 'm' then ['m'].map Char.toUpper else []
        let others := (letters.filter "qvzf".toList.contains).map fun d => ['-', d]
        let isBytes := letters.any "bckm".toList.contains
        return (if isBytes then "-c".toList else "-n".toList) :: (mark ++ digits ++ unit) :: others ++ rest
    else return args
  | _ => return args

def portionForms : List OptionForm :=
  forms [('q', "quiet"), ('q', "silent"), ('v', "verbose"), ('z', "zero-terminated"), ('F', ""),
    ('\x01', "retry")] [('n', "lines"), ('c', "bytes"), ('s', "sleep-interval"), ('\x02', "pid")] ++
    [⟨'f', "follow", .maybe⟩]

def headerOf (isFirst : Bool) (name : Octets) : Octets :=
  let shown := if name = ['-'] then "standard input".toList else name
  (if isFirst then [] else ['\n']) ++ "==> ".toList ++ shown ++ " <==\n".toList

/-- Write the portions of all operands with headers between them. -/
def portions (headers : Bool) (missing : String) (part : Nat → ShellM (Except OsError Unit))
    (names : List Octets) : ShellM Nat := do
  let mut isFirst := true
  let mut code := 0
  for name in names do
    match ← openOperand name with
    | .error .badDescriptor =>
      if headers then emit (headerOf isFirst name)
      isFirst := false
      grumble (missing.toList ++ " 'standard input': Bad file descriptor".toList)
      code := 1
    | .error e =>
      grumble ("cannot open ".toList ++ quoted name ++ " for reading: ".toList ++ e.wording.toList)
      code := 1
    | .ok n =>
      if headers then emit (headerOf isFirst name)
      isFirst := false
      match ← part n with
      | .error e =>
        grumble ("error reading ".toList ++ quoted name ++ ": ".toList ++ e.wording.toList)
        code := 1
      | .ok () => pure ()
  if ← lacksInput names then grumble (reason ['-'] .badDescriptor)
  return code

/-- The size of the blocks in which a stream is read. -/
def blockSize : Nat := 0x2000

/-- Write the first bytes of what is read, and take no more. -/
def headBytes (n : Nat) : (tries : Nat) → (count : Nat) → ShellM (Except OsError Unit)
  | 0, _ => return .ok ()
  | k + 1, count => do
    if count = 0 then
      return (← unread n).map fun _ => ()
    else
      match ← takeUpTo n (min count blockSize) with
      | .error e => return .error e
      | .ok [] => return .ok ()
      | .ok o =>
        emit o
        if o.length ≥ count then return .ok () else headBytes n k (count - o.length)

/-- Write the first lines of what is read. Of a file, what follows is left; of a stream, what is read in
whole blocks is gone. -/
def headLines (stop : Char) (n : Nat) : (tries : Nat) → (count : Nat) → ShellM (Except OsError Unit)
  | 0, _ => return .ok ()
  | k + 1, count => do
    if count = 0 then return .ok ()
    else
      match ← takeUpTo n blockSize with
      | .error e => return .error e
      | .ok [] => return .ok ()
      | .ok o =>
        let (first, missing) := firstLines stop count o
        emit first
        if missing = 0 then
          unreadBytes n (o.length - first.length)
          return .ok ()
        else headLines stop n k missing

def head : Utility := fun _ args => do
  let g ← given portionForms (← modernized false '-' args)
  let p ← portionOf '-' g
  let names := if g.operands = [] then [['-']] else g.operands
  let headers := (names.length > 1 || g.has 'v') && g.last? "qv" != some 'q'
  let part (n : Nat) : ShellM (Except OsError Unit) := do
    if p.opposite then
      match ← takeAll n with
      | .error e => return .error e
      | .ok (.text o) =>
        let first := beginning p o
        emit first
        unreadBytes n (o.length - first.length)
        return .ok ()
      | .ok (.endless c) =>
        emitForever (List.replicate blockSize c) forever
        return .ok ()
    else if p.bytes then headBytes n maxBlocks p.count
    else headLines p.stop n maxBlocks p.count
  portions headers "error reading" part names

/-- Write all but the first bytes or lines. -/
def tailFrom (p : Portion) (n : Nat) : ShellM (Except OsError Unit) := do
  let step (left : Nat) (o : Octets) : ShellM (Nat × Bool) := do
    if left = 0 then
      emit o
      return (0, false)
    else if p.bytes then
      emit (o.drop left)
      return (left - o.length, false)
    else
      let (first, missing) := firstLines p.stop left o
      emit (o.drop first.length)
      return (missing, false)
  return (← eachBlock n step maxBlocks (p.count - 1)).map fun _ => ()

/-- Write what is added to a file, without end. -/
def follow (n : Nat) : (tries : Nat) → ShellM Unit
  | 0 => return
  | k + 1 => do
    match ← takeSome n with
    | .ok (.text o) => emitNow o
    | _ => pure ()
    passTime 1000000
    follow n k

def tail : Utility := fun _ args => do
  let g ← given portionForms (← modernized true '+' (← modernized true '-' args))
  let p ← portionOf '+' g
  let names := if g.operands = [] then [['-']] else g.operands
  let headers := (names.length > 1 || g.has 'v') && g.last? "qv" != some 'q'
  let part (n : Nat) : ShellM (Except OsError Unit) := do
    if p.opposite then tailFrom p n
    else
      match ← takeAll n with
      | .ok (.text o) =>
        emit (ending p o)
        return .ok ()
      | .ok (.endless _) => return .ok ()
      | .error e => return .error e
  let code ← portions headers "cannot fstat" part names
  if g.has 'f' ∨ g.has 'F' then
    match names with
    | [name] =>
      if name ≠ ['-'] then
        match ← openPath name .reads with
        | .ok n =>
          flush
          let _ ← takeSome n
          follow n 0x1000000
        | .error _ => pure ()
    | _ => pure ()
  return code

/-! ## Lines the other way round -/

/-- Pieces of a text, the last first, as separators divide it. A separator is looked for from the end, in front
of the one that was found before; it belongs to the piece in front of it, or with `before` to the one behind.
`find?` tells how long a separator at the beginning of a text is. -/
def piecesBack (before : Bool) (find? : (prior : Option Char) → Octets → Option Nat) (o : Octets) :
    List Octets :=
  go o.reverse [] [] []
where
  /-- Letters still to be seen from the end on, what has been seen of the piece, the separator behind it, and the
  pieces behind that, the last of all at the end. -/
  go : Octets → (body separator : Octets) → (back : List Octets) → List Octets
    | [], body, separator, back => (if body = [] ∧ separator = [] then back else (body ++ separator) :: back).reverse
    | c :: rest, body, separator, back =>
      let text := c :: body
      match find? rest.head? text with
      | some k =>
        if before then go rest [] [] (text :: back)
        else
          let piece := text.drop k ++ separator
          go rest [] (text.take k) (if piece = [] then back else piece :: back)
      | none => go rest text separator back

/-- Lines from the last to the first; one that is not ended runs into the next. -/
def tac : Utility := fun _ args => do
  let g ← given (forms [('b', "before"), ('r', "regex")] [('s', "separator")]) args
  let separator := (g.value? 's').getD ['\n']
  if separator = [] ∧ g.has 'r' then stop 1 "separator cannot be empty".toList
  let separator := if separator = [] then ['\x00'] else separator
  let regex ← if !g.has 'r' then pure none
    else match Regex.ofText? false false (Regex.withPlainRepeats false separator) with
      | .ok r => pure (some r)
      | .error e => stop 1 e.toList
  let find? (prior : Option Char) (t : Octets) : Option Nat :=
    match regex with
    | some r => (Regex.matchAt r (.ofText prior t)).bind fun m => if m.length = 0 then none else some m.length
    | none => if separator.isPrefixOf t then some separator.length else none
  let mut code := 0
  for name in if g.operands = [] then [['-']] else g.operands do
    match ← readOperand name with
    | .ok o =>
      if regex.isNone ∧ separator = ['\n'] ∧ !g.has 'b' then
        emit ((endedLines o).reverse.flatMap fun (l, ended) => if ended then l ++ ['\n'] else l)
      else emit (piecesBack (g.has 'b') find? o).flatten
    | .error e =>
      if e = .badDescriptor then grumble "'standard input': read error: Bad file descriptor".toList
      else if e = .isDirectory then grumble (named name ++ ": read error: Invalid argument".toList)
      else grumble ("failed to open ".toList ++ quoted name ++ " for reading: ".toList ++ e.wording.toList)
      code := 1
  if ← lacksInput g.operands then grumble (reason ['-'] .badDescriptor)
  return code

/-- Each line from its last character to its first. Text outside the characters of the system ends it all. -/
def rev : Utility := fun _ args => do
  let names := args.filter fun a => a != ['-', '-']
  let mut code := 0
  for name in if names = [] then [['-']] else names do
    let shown := if names = [] then "stdin".toList else name
    match ← (if names = [] then openOperand ['-'] else openPath name .reads) with
    | .ok n =>
      let step (count : Nat) (lines : List (Octets × Bool)) : ShellM (Nat × Option Nat) := do
        let good := lines.takeWhile fun (l, _) => l.all (·.toNat < 128)
        emit (good.flatMap fun (l, ended) => if ended then l.reverse ++ ['\n'] else l.reverse)
        if good.length < lines.length then
          grumble (shown ++ ": ".toList ++ Text.ofNat (count + good.length) ++
            ": Invalid or incomplete multibyte or wide character".toList)
          exit 1
        return (count + good.length, none)
      match ← eachLines '\n' n step 0 with
      | .ok _ => pure ()
      | .error e =>
        grumble (shown ++ ": 0: ".toList ++ e.wording.toList)
        code := 1
    | .error e =>
      grumble ("cannot open ".toList ++ name ++ ": ".toList ++ e.wording.toList)
      code := 1
  return code

/-! ## Numbers of lines -/

/-- Which lines of a section are numbered. -/
inductive NumberedLines where
  | all
  | nonempty
  | none
  | matching (r : Regex)

/-- How the lines of a page are numbered. -/
structure Numbering where
  header : NumberedLines
  body : NumberedLines
  footer : NumberedLines
  width : Nat
  separator : Octets
  start : Int
  step : Int
  left : Bool
  zeros : Bool
  joined : Nat
  mark : Octets
  restarts : Bool

structure NumberingState where
  section_ : NumberedLines
  next : Int
  blanks : Nat := 0

namespace Numbering

def number (k : Numbering) (n : Int) : Octets :=
  let digits := Text.ofInt n
  if k.left then padRight k.width digits
  else if k.zeros then
    (if n < 0 then ['-'] else []) ++ List.replicate (k.width - digits.length) '0' ++ Text.ofNat n.natAbs
  else padLeft k.width digits

/-- The section that a line begins. -/
def section? (k : Numbering) (l : Octets) : Option NumberedLines :=
  let m := k.mark
  if m = [] then none
  else if l = m ++ m ++ m then some k.header
  else if l = m ++ m then some k.body
  else if l = m then some k.footer
  else none

def line (k : Numbering) (s : NumberingState) (l : Octets) : Octets × NumberingState :=
  match k.section? l with
  | some next => (['\n'], { s with section_ := next, next := if k.restarts then k.start else s.next })
  | none =>
    let counted (s : NumberingState) : Octets × NumberingState :=
      (k.number s.next ++ k.separator ++ l ++ ['\n'], { s with next := s.next + k.step })
    let plain (s : NumberingState) : Octets × NumberingState :=
      (List.replicate (k.width + k.separator.length) ' ' ++ l ++ ['\n'], s)
    match s.section_ with
    | .all =>
      if k.joined ≤ 1 then counted s
      else if l ≠ [] ∨ s.blanks + 1 = k.joined then counted { s with blanks := 0 }
      else plain { s with blanks := s.blanks + 1 }
    | .nonempty => if l ≠ [] then counted s else plain s
    | .none => plain s
    | .matching r => if (r.search l).isSome then counted s else plain s

end Numbering

def numberedLines (what : String) (t : Octets) : ShellM NumberedLines := do
  match t with
  | ['a'] => return .all
  | ['t'] => return .nonempty
  | ['n'] => return .none
  | 'p' :: r =>
    match Regex.ofText? false false r with
    | .ok r => return .matching r
    | .error e => stop 1 e.toList
  | t => misuse 1 ("invalid ".toList ++ what.toList ++ " numbering style: ".toList ++ quoted t)

def nl : Utility := fun _ args => do
  let g ← given (forms [('p', "no-renumber")] [('b', "body-numbering"), ('f', "footer-numbering"),
    ('h', "header-numbering"), ('i', "line-increment"), ('l', "join-blank-lines"), ('n', "number-format"),
    ('s', "number-separator"), ('v', "starting-line-number"), ('w', "number-width"),
    ('d', "section-delimiter")]) args
  let number (c : Char) (what : String) (usual : Int) : ShellM Int := do
    match g.value? c with
    | none => return usual
    | some t =>
      let ds := if t.head? = some '-' ∨ t.head? = some '+' then t.drop 1 else t
      if !isNumber ds then stop 1 ("invalid ".toList ++ what.toList ++ ": ".toList ++ quoted t)
      else
        let n : Int := digitsValue ds
        return if t.head? = some '-' then -n else n
  let header ← numberedLines "header" ((g.value? 'h').getD ['n'])
  let body ← numberedLines "body" ((g.value? 'b').getD ['t'])
  let footer ← numberedLines "footer" ((g.value? 'f').getD ['n'])
  let start ← number 'v' "starting line number" 1
  let step ← number 'i' "line number increment" 1
  let joined ← number 'l' "line number of blank lines" 1
  let width ← number 'w' "line number field width" 6
  if width ≤ 0 then
    stop 1 ("invalid line number field width: ".toList ++ quoted ((g.value? 'w').getD []) ++
      ": Numerical result out of range".toList)
  if joined ≤ 0 then
    stop 1 ("invalid line number of blank lines: ".toList ++ quoted ((g.value? 'l').getD []) ++
      ": Numerical result out of range".toList)
  let form := (g.value? 'n').getD "rn".toList
  if (["ln", "rn", "rz"] : List String).all (·.toList != form) then
    misuse 1 ("invalid line numbering format: ".toList ++ quoted form)
  let mark := match g.value? 'd' with
    | none => "\\:".toList
    | some [c] => [c, ':']
    | some m => m
  let k : Numbering := {
    header, body, footer, width := width.toNat, separator := (g.value? 's').getD ['\t'], start, step
    left := form == "ln".toList, zeros := form == "rz".toList, joined := joined.toNat, mark
    restarts := !g.has 'p' }
  let handle (s : NumberingState) (lines : List (Octets × Bool)) : ShellM (NumberingState × Option Nat) := do
    let (back, s) := lines.foldl (fun (back, s) (l, _) =>
      let (o, s) := k.line s l
      (o :: back, s)) (([] : List Octets), s)
    emit back.reverse.flatten
    return (s, none)
  let (_, code) ← forLines '\n' g.operands handle ⟨k.body, k.start, 0⟩
  return code

/-! ## Counting -/

structure Counts where
  lines : Nat := 0
  words : Nat := 0
  chars : Nat := 0
  bytes : Nat := 0
  longest : Nat := 0

namespace Counts

def isSpace (c : Char) : Bool := c == ' ' || ('\t' ≤ c && c ≤ '\r')

def wordsOf (o : Octets) : Nat :=
  (o.foldl (fun (n, inWord) c =>
    if isSpace c then (n, false) else if inWord then (n, true) else (n + 1, true)) (0, false)).1

def widthOf (line : Octets) : Nat :=
  line.foldl (fun n c => if c = '\t' then n / 8 * 8 + 8 else if isPrintable c then n + 1 else n) 0

def ofText (o : Octets) : Counts :=
  { lines := o.countP (· == '\n'), words := wordsOf o, chars := o.length, bytes := o.length
    longest := ((linesOf o).1.map widthOf).foldl max 0 }

def add (a b : Counts) : Counts :=
  ⟨a.lines + b.lines, a.words + b.words, a.chars + b.chars, a.bytes + b.bytes, max a.longest b.longest⟩

/-- The counts that are asked for, in the order in which they are shown. -/
def shown (wants : Char → Bool) (k : Counts) : List Nat :=
  (if wants 'l' then [k.lines] else []) ++ (if wants 'w' then [k.words] else []) ++
    (if wants 'm' then [k.chars] else []) ++ (if wants 'c' then [k.bytes] else []) ++
    if wants 'L' then [k.longest] else []

def line (wants : Char → Bool) (width : Nat) (k : Counts) (name : Octets) : Octets :=
  let numbers := Text.join [' '] ((k.shown wants).map fun n => padLeft width (Text.ofNat n))
  numbers ++ (if name = [] then [] else ' ' :: named name) ++ ['\n']

end Counts

/-- How wide the columns are: as the sum of all sizes, if these are known. -/
def countWidth (columns : Nat) (names : List Octets) : ShellM Nat := do
  if names.length ≤ 1 ∧ columns ≤ 1 then return 1
  else
    let mut total := 0
    let mut least := 1
    for name in names do
      match ← openOperand name with
      | .error _ => pure ()
      | .ok n =>
        match ← targetOf n with
        | some (.stream _) => least := 7
        | some (.device _) => least := 7
        | some (.dir _) => least := 7
        | some target => total := total + (← world).sizeOf target
        | none => pure ()
    return max least (Text.ofNat total).length

def wc : Utility := fun _ args => do
  let g ← given (forms [('l', "lines"), ('w', "words"), ('m', "chars"), ('c', "bytes"),
    ('L', "max-line-length")] []) args
  let asked := g.options.map (·.1)
  let wants (c : Char) : Bool := if asked = [] then "lwc".toList.contains c else asked.contains c
  let columns := (Counts.shown wants {}).length
  let names := if g.operands = [] then [['-']] else g.operands
  let width ← countWidth columns names
  let mut total : Counts := {}
  let mut code := 0
  for name in names do
    let shownName := if g.operands = [] then [] else name
    match ← readOperand name with
    | .ok o =>
      let k := Counts.ofText o
      total := total.add k
      emit (Counts.line wants width k shownName)
    | .error e =>
      if e = .badDescriptor ∧ shownName = [] then grumble "'standard input': Bad file descriptor".toList
      else grumble (reason name e)
      if e = .isDirectory ∨ e = .badDescriptor then emit (Counts.line wants width {} shownName)
      code := 1
  if names.length > 1 then emit (Counts.line wants width total "total".toList)
  if ← lacksInput g.operands then grumble (reason ['-'] .badDescriptor)
  return code

end KarelBuild.Shell.Utility
