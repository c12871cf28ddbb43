import KarelBuild.Shell.Utility.Running

/-!
# Arguments from the input

`xargs` starts a program with the words that it reads. Blanks part words unless they are in quotes or stand
behind a backslash; or one byte ends each word. A program is started as soon as as many words or lines have
come together as it is to get, or as there is room for.
-/

namespace KarelBuild.Shell.Utility

open ShellM

namespace Collecting

/-! ## Words -/

/-- What comes of reading. -/
inductive Item where
  | word (o : Octets)
  /-- A line is over; it counts unless a blank stands before its end. -/
  | lineEnd (counts : Bool)
  /-- A line that is taken as a whole. -/
  | line (o : Octets)
  | fault (message : String)
  /-- A byte that no argument can hold. -/
  | zero

inductive Mode where
  | skipping
  | plain
  | quoted (mark : Char)
  | escaped
  deriving DecidableEq, Repr

/-- What reading keeps track of. -/
structure Reader where
  /-- Whether lines are taken as a whole. -/
  wholeLines : Bool
  /-- The word that ends the input. -/
  ending : Option Octets
  /-- The byte that ends words, if that is all that does. -/
  stop : Option Char
  mode : Mode := .skipping
  back : Octets := []
  hasQuotes : Bool := false
  last : Option Char := none
  isOver : Bool := false

namespace Reader

def isBlank (c : Char) : Bool := c == ' ' || c == '\t'

def isSpace (c : Char) : Bool := c == ' ' || ('\t' ≤ c && c ≤ '\r')

def unmatched (mark : Char) : Item :=
  .fault ("unmatched " ++ (if mark = '"' then "double" else "single") ++
    " quote; by default quotes are special to xargs unless you use the -0 option")

/-- A word is over. -/
def wordDone (r : Reader) : Reader × List Item :=
  let o := r.back.reverse.takeWhile (· != '\x00')
  if r.ending = some o then ({ r with isOver := true, back := [] }, [])
  else ({ r with back := [] }, [if r.wholeLines then .line o else .word o])

def step (r : Reader) (c : Char) : Reader × List Item :=
  let before := r.last
  let r := { r with last := some c }
  let keep (r : Reader) : Reader × List Item := ({ r with back := c :: r.back }, if c = '\x00' then [.zero] else [])
  match r.stop with
  | some d =>
    if c = d then
      let (r, items) := r.wordDone
      (r, items ++ [.lineEnd true])
    else ({ r with back := c :: r.back }, [])
  | none =>
    if r.mode = .skipping ∧ isSpace c then (r, [])
    else match r.mode with
      | .quoted mark =>
        if c = mark then ({ r with mode := .plain, hasQuotes := true }, [])
        else if c = '\n' then ({ r with isOver := true }, [unmatched mark])
        else keep r
      | .escaped => keep { r with mode := .plain }
      | _ =>
        let r := { r with mode := .plain }
        if c = '\n' then
          if r.back = [] ∧ !r.hasQuotes then ({ r with mode := .skipping }, [])
          else
            let (r, items) := r.wordDone
            ({ r with mode := .skipping, hasQuotes := false, last := none },
              items ++ [.lineEnd (!before.any isBlank)])
        else if isBlank c ∧ !r.wholeLines then
          let (r, items) := r.wordDone
          ({ r with mode := .skipping }, items)
        else if c = '\\' then ({ r with mode := .escaped }, [])
        else if c = '\'' ∨ c = '"' then ({ r with mode := .quoted c }, [])
        else keep r

/-- The items of a portion of the input, and how much of it is left when the rest does not matter. -/
def feed (r : Reader) (o : Octets) : Reader × List Item × Nat :=
  let (r, back, left) := o.foldl (fun (r, back, left) c =>
    if r.isOver then (r, back, left + 1)
    else
      let (r, items) := r.step c
      (r, items.reverse ++ back, left)) (r, ([] : List Item), 0)
  (r, back.reverse, left)

/-- What is left at the end of the input. -/
def finish (r : Reader) : List Item :=
  if r.isOver ∨ r.back = [] then []
  else match r.mode, r.stop with
    | .quoted mark, none => [unmatched mark]
    | _, _ => r.wordDone.2

end Reader

/-! ## Commands -/

/-- How commands are made. -/
structure Plan where
  command : List Octets
  /-- What stands for the line that is put in. -/
  mark : Option Octets := none
  perCommand : Option Nat := none
  linesPerCommand : Option Nat := none
  room : Nat := 131072
  stopsWhenFull : Bool := false
  tells : Bool := false
  asks : Bool := false
  atOnce : Nat := 1
  skipsEmpty : Bool := false
  slotName : Option Octets := none
  /-- Whether programs have the own input for theirs. -/
  sharesInput : Bool := false

/-- A program that goes on: its number, its name, and its slot. -/
structure Started where
  number : Nat
  name : Octets
  slot : Nat

/-- The words that have come together, the last one first, and what is known of those before. -/
structure Batch where
  back : List Octets := []
  words : Nat := 0
  size : Nat := 0
  lines : Nat := 0
  count : Nat := 0
  running : List Started := []
  code : Nat := 0
  warned : Bool := false

abbrev CollectM := StateT Batch ShellM

/-- How many bytes arguments take up. -/
def sizeOfAll (args : List Octets) : Nat := sumOf (args.map (·.length + 1))

/-- Take note of how a program has ended. One that asks for it, or that dies, ends it all. -/
def noteEnding (s : Started) (ending : Ending) : CollectM (Option Nat) := do
  modify fun b => { b with running := b.running.filter (·.number != s.number) }
  match ending with
  | .code 0 => return none
  | .code 255 =>
    grumble (s.name ++ ": exited with status 255; aborting".toList)
    return some 124
  | .code _ =>
    modify fun b => { b with code := 123 }
    return none
  | .signal n =>
    grumble (s.name ++ ": terminated by signal ".toList ++ Text.ofNat n)
    return some 125

/-- Wait for one of the programs to end. -/
def awaitOne : CollectM (Option Nat) := do
  let running := (← get).running
  await (.ended (running.map (·.number)))
  let ended := (← world).ended
  match running.find? fun s => (ended.lookup s.number).isSome with
  | none => return none
  | some s => noteEnding s (← awaitEnding s.number)

/-- Wait for all programs, and end. An exit code that came of one of them counts more. -/
def endWith {α : Type} (code : Nat) : CollectM α := do
  for s in (← get).running do
    let _ ← noteEnding s (← awaitEnding s.number)
  let b ← get
  exit (if b.code = 0 then code else b.code)

def fail {α : Type} (message : Octets) : CollectM α := do
  grumble message
  endWith 1

/-- Wait until fewer programs go on than may. -/
def makeRoom (atOnce : Nat) : (tries : Nat) → CollectM Unit
  | 0 => return
  | n + 1 => do
    if atOnce ≠ 0 ∧ atOnce ≤ (← get).running.length then
      match ← awaitOne with
      | some code => endWith code
      | none => makeRoom atOnce n

/-- Start a program. -/
def start (p : Plan) (words : List Octets) : CollectM Unit := do
  makeRoom p.atOnce maxWaits
  let shown := Text.join [' '] (words.map shellWord)
  if p.asks then
    say 2 shown
    fail "failed to open /dev/tty for reading: No such device or address".toList
  if p.tells then say 2 (shown ++ ['\n'])
  modify fun b => { b with count := b.count + 1 }
  let name := words.headD []
  match ← launchNamed name (words.drop 1) with
  | .error e =>
    grumble (name ++ ": ".toList ++ e.wording.toList)
    endWith (notStarted e)
  | .ok l =>
    let taken := (← get).running.map (·.slot)
    let slot := ((List.range (taken.length + 1)).find? (!taken.contains ·)).getD 0
    let number ← newProcess
    modifyWorld fun w => { w with clock := w.clock + startSpan }
    let child := (← shell).forProgram number
    let null ← add ⟨.device .null, 0, false, true, false⟩
    let child := if p.sharesInput then child else child.connect 0 null
    let child := match p.slotName with
      | none => child
      | some v =>
        let others := child.vars.filter (·.1 != v)
        { child with vars := [(v, { content := .text (Text.ofNat slot), exported := true })] ++ others }
    spawn child (.program l)
    modify fun b => { b with running := b.running ++ [⟨number, name, slot⟩] }

/-- Start the program with the words that have come together. -/
def startBatch (p : Plan) : CollectM Unit := do
  let words := (← get).back.reverse
  modify fun b => { b with back := [], words := 0, size := 0 }
  start p (p.command ++ words)

/-- Start the program, if there are words for it, before complaining of what cannot be used. -/
def startIfAny (p : Plan) : CollectM Unit := do
  if p.mark.isNone && (← get).back != [] && !p.stopsWhenFull then startBatch p

def addWord (p : Plan) (o : Octets) : CollectM Unit := do
  let fixed := sizeOfAll p.command
  if p.room < fixed + 1 + o.length then
    startIfAny p
    fail "argument line too long".toList
  let b ← get
  if fixed + b.size + o.length + 1 > p.room then
    if b.back = [] then fail "cannot fit single argument within argument list size limit".toList
    if p.stopsWhenFull ∧ (p.perCommand.isSome ∨ p.linesPerCommand.isSome) then
      fail "argument list too long".toList
    startBatch p
  modify fun b => { b with back := o :: b.back, words := b.words + 1, size := b.size + o.length + 1 }
  if p.perCommand = some (← get).words then startBatch p

/-- Start the program with a line put in for its mark; the program's name stays as it is. -/
def startFor (p : Plan) (mark o : Octets) : CollectM Unit := do
  if mark = [] ∧ p.command.length > 1 then fail "command too long".toList
  let words := (p.command.drop 1).map fun a => replaceAll mark o (a.length + 1) a
  let words := p.command.take 1 ++ words
  if p.room < sizeOfAll words then fail "command too long".toList
  start p words

def handle (p : Plan) : Item → CollectM Unit
  | .word o => addWord p o
  | .line o => startFor p (p.mark.getD []) o
  | .lineEnd counts => do
    if counts then modify fun b => { b with lines := b.lines + 1 }
    let b ← get
    if p.linesPerCommand.any (· ≤ b.lines) then
      modify fun b => { b with lines := 0 }
      if b.back ≠ [] then startBatch p
  | .fault message => do
    startIfAny p
    fail message.toList
  | .zero => do
    if !(← get).warned then
      modify fun b => { b with warned := true }
      grumble ("WARNING: a NUL character occurred in the input.  It cannot be passed through in the argument " ++
        "list.  Did you mean to use the --null option?").toList

/-- Read and start programs up to the end of the input. -/
def collectFrom (p : Plan) (r : Reader) (source : Option Nat) : CollectM Unit := do
  match source with
  | none => return
  | some n => readOn n maxBlocks r
where
  readOn (n : Nat) : (tries : Nat) → Reader → CollectM Unit
    | 0, _ => return
    | k + 1, r => do
      match ← takeBlock n with
      | .error _ => return
      | .ok [] => r.finish.forM (handle p)
      | .ok o =>
        let (r, items, left) := r.feed o
        items.forM (handle p)
        if r.isOver then unreadBytes n left else readOn n k r

/-! ## Options -/

def numberGiven (letter : Char) (least : Nat) (v : Octets) : ShellM Nat := do
  if !isNumber v then
    misuse 1 ("invalid number \"".toList ++ v ++ "\" for -".toList ++ letter :: " option".toList)
  else if digitsValue v < least then
    misuse 1 ("value ".toList ++ v ++ " for -".toList ++ letter :: " option should be >= ".toList ++
      Text.ofNat least)
  else return digitsValue v

/-- The byte that a text stands for as the end of words. -/
def stopGiven (t : Octets) : ShellM Char := do
  match t with
  | [c] => return c
  | '\\' :: 'x' :: ds =>
    if ds ≠ [] ∧ ds.all (fun c => c.isDigit || "abcdefABCDEF".toList.contains c) then
      return Char.ofNat (ds.foldl (fun n c => n * 16 + hexValue c) 0 % 256)
    else wrong
  | '\\' :: c :: ds =>
    match [('a', '\x07'), ('b', '\x08'), ('f', '\x0c'), ('n', '\n'), ('r', '\r'), ('t', '\t'), ('v', '\x0b'),
        ('\\', '\\')].lookup c with
    | some d => if ds = [] then return d else wrong
    | none =>
      if (c :: ds).all (fun c => '0' ≤ c && c ≤ '7') then
        return Char.ofNat ((c :: ds).foldl (fun n c => n * 8 + (c.toNat - 48)) 0 % 256)
      else stop 1 ("Invalid escape sequence ".toList ++ t ++ " in input delimiter specification.".toList)
  | _ => wrong
where
  hexValue (c : Char) : Nat := if c.isDigit then c.toNat - 48 else c.toLower.toNat - 87
  wrong : ShellM Char := stop 1 ("Invalid input delimiter specification ".toList ++ t ++
    ": the delimiter must be either a single character or an escape sequence starting with \\.".toList)

/-- Of options that exclude each other the last one counts. -/
def exclude (first second : String) : ShellM Unit :=
  grumble ("warning: options " ++ first ++ " and " ++ second ++
    " are mutually exclusive, ignoring previous " ++ first ++ " value").toList

/-- What an option changes in a plan. -/
def planWith (p : Plan) (letter : Char) (v : Octets) : ShellM Plan := do
  match letter with
  | 'n' =>
    let n ← numberGiven 'n' 1 v
    if p.linesPerCommand.isSome then exclude "--max-lines" "--max-args/-n"
    if p.mark.isSome ∧ n = 1 then return p
    else
      if p.mark.isSome then exclude "--replace" "--max-args/-n"
      return { p with perCommand := some n, linesPerCommand := none, mark := none }
  | 'L' => lines 'L' "-L" v
  | 'l' => lines 'l' "--max-lines/-l" (if v = [] then ['1'] else v)
  | 'I' => replacing v
  | 'i' => replacing (if v = [] then "\x7b\x7d".toList else v)
  | 's' =>
    let n ← numberGiven 's' 1 v
    let taken := sizeOfAll ((← shell).environment.map fun (name, o) => name ++ '=' :: o)
    let most := 2097152 - 2048 - taken
    if most < n then
      grumble ("value ".toList ++ v ++ " for -s option should be <= ".toList ++ Text.ofNat most)
    return { p with room := min n most }
  | 'P' =>
    let n ← numberGiven 'P' 0 v
    return { p with atOnce := n }
  | 'x' => return { p with stopsWhenFull := true }
  | 't' => return { p with tells := true }
  | 'p' => return { p with asks := true }
  | 'r' => return { p with skipsEmpty := true }
  | '\x01' =>
    if v.contains '=' then
      stop 1 "option --process-slot-var may not be set to a value which includes \x60='".toList
    else return { p with slotName := some v }
  | _ => return p
where
  lines (letter : Char) (name : String) (v : Octets) : ShellM Plan := do
    let n ← numberGiven letter 1 v
    if p.perCommand.isSome then exclude "--max-args" name
    if p.mark.isSome then exclude "--replace" name
    return { p with linesPerCommand := some n, perCommand := none, mark := none }
  replacing (mark : Octets) : ShellM Plan := do
    if p.linesPerCommand.isSome then exclude "--max-lines" "--replace/-I/-i"
    if p.perCommand.isSome then exclude "--max-args" "--replace/-I/-i"
    return { p with mark := some mark, perCommand := none, linesPerCommand := none }

def xargs : Utility := fun _ args => do
  let g ← readGiven (forms [('0', "null"), ('r', "no-run-if-empty"), ('t', "verbose"), ('p', "interactive"),
    ('x', "exit"), ('o', "open-tty"), ('\x02', "show-limits")] [('a', "arg-file"), ('d', "delimiter"), ('I', ""),
    ('n', "max-args"), ('L', ""), ('P', "max-procs"), ('s', "max-chars"), ('E', ""), ('\x01', "process-slot-var")] ++
    [⟨'i', "replace", .maybe⟩, ⟨'l', "max-lines", .maybe⟩, ⟨'e', "eof", .maybe⟩]) 1 false args
  let start : Plan :=
    { command := if g.operands = [] then ["echo".toList] else g.operands, sharesInput := g.has 'a' }
  let p ← g.options.foldlM (fun p (c, v) => planWith p c v) start
  let stops ← g.options.filterMapM fun (c, v) => do
    if c = '0' then return some '\x00'
    else if c = 'd' then return some (← stopGiven v)
    else return none
  let ending := (g.options.reverse.find? fun o => o.1 == 'E' || o.1 == 'e').map (·.2)
  let r : Reader := { wholeLines := p.mark.isSome, stop := stops.getLast?
                      ending := if stops = [] then ending.filter (· != []) else none }
  let ownInput := (← shell).opened? 0
  let source ← match g.value? 'a' with
    | none => pure ownInput
    | some path =>
      match ← openPath path .reads with
      | .ok n => pure (some n)
      | .error e => stop 1 ("Cannot open input file ".toList ++ quoted path ++ ": ".toList ++ e.wording.toList)
  let all : CollectM Unit := do
    if p.mark.isNone ∧ p.room < sizeOfAll p.command then
      fail "cannot fit single argument within argument list size limit".toList
    collectFrom p r source
    let b ← get
    if p.mark.isNone && (b.back != [] || (b.count = 0 && !p.skipsEmpty)) then startBatch p
    makeRoom 1 maxWaits
    if source.isNone then fail "error closing file: Bad file descriptor".toList
  let (_, b) ← all.run {}
  return b.code

end Collecting

end KarelBuild.Shell.Utility
