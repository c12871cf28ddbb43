import KarelBuild.Shell.Program
import KarelBuild.Shell.Utility.Paths

/-!
# Running other programs

Utilities that change what a program is started with and become it, or start it several times with
arguments from their input.
-/

namespace KarelBuild.Shell.Utility

open ShellM

/-! ## Finding programs -/

/-- The program that a name stands for, with its arguments. -/
def launchNamed (name : Octets) (args : List Octets) : ShellM (Except OsError Launch) := do
  let s ← get
  if name = [] then return .error .noEntry
  else
    let dirs := if (s.shell.var? "PATH".toList).isSome then Builtin.searchDirs s.shell
      else Launch.defaultDirs
    return (pathOf s dirs (Octets.toText name)).bind fun path =>
      launchOf s path name args

def notStarted (e : OsError) : Nat := if e = .noEntry ∨ e = .notDirectory then 127 else 126

/-- Become a program, or complain with what goes in front of its name. -/
def become (m : Machine) (lead : String) (name : Octets) (args : List Octets) : ShellM Nat := do
  match ← launchNamed name args with
  | .ok l =>
    becomeProgram m l
    return 0
  | .error e =>
    grumble (lead.toList ++ quoted name ++ ": ".toList ++ e.wording.toList)
    return notStarted e

/-- Start a program and wait for it. -/
def startNamed (l : Launch) : ShellM Ending := do
  let number ← newProcess
  modifyWorld fun w => { w with clock := w.clock + startSpan }
  runProcess ((← shell).forProgram number) (.program l)

/-- Run a text in a shell and wait for it. -/
def runInShell (text : Octets) : ShellM Ending := do
  match ← launchNamed "/bin/sh".toList ["-c".toList, text] with
  | .ok l => startNamed { l with name := "sh".toList }
  | .error e => return .code (notStarted e)

/-- What a text that is run in a shell writes, and how it ended. -/
def outputInShell (text : Octets) : ShellM (Octets × Ending) := do
  match ← launchNamed "/bin/sh".toList ["-c".toList, text] with
  | .error e => return ([], .code (notStarted e))
  | .ok l =>
    let (_, reading, writing) ← openStream
    let number ← newProcess
    modifyWorld fun w => { w with clock := w.clock + startSpan }
    spawn (((← shell).forProgram number).connect 1 writing) (.program { l with name := "sh".toList })
    let o := match ← takeAll reading with
      | .ok (.text o) => o
      | _ => []
    return (o, ← awaitEnding number)

/-! ## The environment -/

/-- Take the settings of variables in front of a command. -/
def takeSettings : List Octets → ShellM (List Octets)
  | [] => return []
  | a :: rest => do
    match Text.cut '=' a with
    | (name, some o) =>
      putVar name { content := .text o, exported := true }
      takeSettings rest
    | _ => return a :: rest

def showEnvironment (stop : Char) : ShellM Unit := do
  emit ((← shell).environment.flatMap fun (name, o) => name ++ '=' :: o ++ [stop])

/-- Words of a text, blanks between them. -/
def wordsOf (o : Octets) : List Octets := (Text.split ' ' o).filter (· != [])

/-! ## Splitting -/

/-- Where reading a text into words stands: outside quotes or within some, the word so far, and the words before
it, the last first. -/
structure Splitting where
  quote : Option Char := none
  word : Octets := []
  isStarted : Bool := false
  back : List Octets := []

def Splitting.put (s : Splitting) (o : Octets) : Splitting :=
  { s with word := o.reverse ++ s.word, isStarted := true }

def Splitting.close (s : Splitting) : Splitting :=
  if s.isStarted then { s with word := [], isStarted := false, back := s.word.reverse :: s.back } else s

/-- Read a text into words. Quotes keep blanks, a backslash stands for what cannot be typed, and variables are
replaced by what they hold. -/
def splitText (p : Process) : (steps : Nat) → Splitting → Octets → Except String (List Octets)
  | 0, s, _ => .ok s.close.back.reverse
  | _, s, [] => if s.quote.isSome then .error "no terminating quote in -S string" else .ok s.close.back.reverse
  | n + 1, s, c :: r =>
    let isBlank := " \t\n\x0b\x0c\r".toList.contains c
    if s.quote = some '\'' then
      match c, r with
      | '\'', _ => splitText p n { s with quote := none } r
      | '\\', d :: rest =>
        if d = '\\' ∨ d = '\'' then splitText p n (s.put [d]) rest else splitText p n (s.put [c]) r
      | _, _ => splitText p n (s.put [c]) r
    else if s.quote.isNone ∧ isBlank then splitText p n s.close r
    else if s.quote.isNone ∧ c = '\'' then splitText p n { s with quote := some c, isStarted := true } r
    else if c = '"' then
      splitText p n { s with quote := if s.quote.isSome then none else some c, isStarted := true } r
    else if s.quote.isNone ∧ c = '#' ∧ !s.isStarted then .ok s.back.reverse
    else if c = '$' then
      match r with
      | '\x7b' :: more =>
        let name := more.takeWhile fun d => d.isAlphanum || d == '_'
        match more.drop name.length with
        | '\x7d' :: rest =>
          if name = [] ∨ name.head?.any Char.isDigit then .error (unknownVariable (c :: r))
          else
            let value := ((p.environment.lookup name).getD [])
            let s := s.put value
            splitText p n { s with isStarted := s.isStarted } rest
        | _ => .error (unknownVariable (c :: r))
      | _ => .error (unknownVariable (c :: r))
    else if c = '\\' then
      match r with
      | [] => .error "invalid backslash at end of string in -S"
      | d :: rest =>
        if d = '_' then splitText p n (if s.quote.isSome then s.put [' '] else s.close) rest
        else if d = 'c' then
          if s.quote.isSome then .error "'\\c' must not appear in double-quoted -S string"
          else .ok s.close.back.reverse
        else if "\"'$\\#".toList.contains d then splitText p n (s.put [d]) rest
        else match [('f', '\x0c'), ('n', '\n'), ('r', '\r'), ('t', '\t'), ('v', '\x0b')].lookup d with
          | some e => splitText p n (s.put [e]) rest
          | none => .error ("invalid sequence '\\" ++ String.ofList [d] ++ "' in -S")
    else splitText p n (s.put [c]) r
where
  unknownVariable (t : Octets) : String :=
    "only $\x7bVARNAME\x7d expansion is supported, error at: " ++ String.ofList t

/-- Options in front, with words in the place of texts that are to be split. -/
def splitOptions : (steps : Nat) → List Octets → ShellM (List Octets)
  | 0, args => return args
  | _, [] => return []
  | n + 1, a :: rest => do
    let split (text : Octets) (front rest : List Octets) : ShellM (List Octets) := do
      match splitText (← shell) (text.length + 1) {} text with
      | .ok words => return front ++ (← splitOptions n (words ++ rest))
      | .error message => stop 125 message.toList
    match a with
    | '-' :: '-' :: name =>
      match Text.cut '=' name, rest with
      | (word, some text), _ =>
        if word = "split-string".toList then split text [] rest else return a :: (← splitOptions n rest)
      | (word, none), text :: rest' =>
        if word = "split-string".toList then split text [] rest'
        else if word = [] then return a :: rest
        else return a :: (← splitOptions n rest)
      | _, _ => return a :: rest
    | '-' :: cluster =>
      let flags := cluster.takeWhile fun c => c == 'i' || c == '0' || c == 'v'
      let front := if flags = [] then [] else ['-' :: flags]
      match cluster.drop flags.length, rest with
      | 'S' :: [], text :: rest' => split text front rest'
      | 'S' :: text, _ => split text front rest
      | [c], value :: rest' =>
        if c = 'u' ∨ c = 'C' then return a :: value :: (← splitOptions n rest')
        else return a :: (← splitOptions n rest)
      | _, _ => return a :: (← splitOptions n rest)
    | _ => return a :: rest

def env : Utility := fun m args => do
  let args ← splitOptions (sumOf (args.map (·.length)) + args.length + 1) args
  let args := match args with
    | ['-'] :: rest => "-i".toList :: rest
    | args => args
  let g ← readGiven (forms [('i', "ignore-environment"), ('0', "null"), ('v', "debug")]
    [('u', "unset"), ('C', "chdir"), ('S', "split-string")]) 125 false args
  if g.has 'i' then modifyShell fun p => { p with vars := [] }
  for (c, name) in g.options do
    if c = 'u' then
      if name = [] ∨ name.contains '=' then
        stop 125 ("cannot unset ".toList ++ quoted name ++ ": Invalid argument".toList)
      eraseVar name
  let rest ← takeSettings g.operands
  if g.has '0' ∧ rest ≠ [] then misuse 125 "cannot specify --null (-0) with command".toList
  if g.has 'C' ∧ rest = [] then misuse 125 "must specify command with --chdir (-C)".toList
  match g.value? 'C' with
  | some dir =>
    match ← stat? dir with
    | .ok (place, .dir) => modifyShell fun p => { p with workDir := ⟨place, 0⟩ }
    | .ok _ => stop 125 ("cannot change directory to ".toList ++ quoted dir ++ ": Not a directory".toList)
    | .error e =>
      stop 125 ("cannot change directory to ".toList ++ quoted dir ++ ": ".toList ++ e.wording.toList)
  | none => pure ()
  match rest with
  | [] =>
    showEnvironment (if g.has '0' then '\x00' else '\n')
    return 0
  | name :: args =>
    let code ← become m "" name args
    if code = 127 ∧ name.any (" \t\n\x0b\x0c\r".toList.contains ·) then
      grumble "use -[v]S to pass options in shebang lines".toList
    return code

def printenv : Utility := fun _ args => do
  let g ← readGiven (forms [('0', "null")] []) 2 false args
  let stop := if g.has '0' then '\x00' else '\n'
  if g.operands = [] then
    showEnvironment stop
    return 0
  else
    let environment := (← shell).environment
    let values := g.operands.map fun name => environment.lookup name
    emit (values.flatMap fun v => v.elim [] (· ++ [stop]))
    return if values.all Option.isSome then 0 else 1

/-! ## Prefixes -/

def nice : Utility := fun m args => do
  let args := match args with
    | ('-' :: c :: ds) :: rest =>
      if c.isDigit || ((c == '-' || c == '+') && ds.head?.any Char.isDigit) then "-n".toList :: (c :: ds) :: rest
      else args
    | args => args
  let g ← readGiven (forms [] [('n', "adjustment")]) 125 false args
  let step ← match g.value? 'n' with
    | none => pure (10 : Int)
    | some value =>
      match signedNumber? value with
      | some k => pure k
      | none => stop 125 ("invalid adjustment ".toList ++ quoted value)
  match g.operands with
  | [] =>
    if g.has 'n' then misuse 125 "a command must be given with an adjustment".toList
    emitLine (Text.ofInt (← shell).niceness)
    return 0
  | name :: args =>
    modifyShell fun p => { p with niceness := max (-20) (min 19 (p.niceness + step)) }
    become m "" name args

def nohup : Utility := fun m args => do
  introduceIfAsked args
  let g ← readGiven [] 125 false args
  match g.operands with
  | [] => misuse 125 "missing operand".toList
  | name :: args =>
    modifyShell fun p => { p with traps := (1, []) :: p.traps.filter (·.1 ≠ 1) }
    become m "failed to run command " name args

/-- Become a program whose streams are written in other portions, which nobody can see. -/
def stdbuf : Utility := fun m args => do
  let g ← readGiven (forms [] [('i', "input"), ('o', "output"), ('e', "error")]) 125 false args
  for (c, mode) in g.options do
    if c = 'i' ∧ mode = ['L'] then misuse 125 "line buffering stdin is meaningless".toList
    if mode ≠ ['L'] ∧ (sized? mode).isNone then stop 125 ("invalid mode ".toList ++ quoted mode)
  match g.operands with
  | [] => misuse 125 "missing operand".toList
  | name :: args =>
    if g.options = [] then misuse 125 "you must specify a buffering mode option".toList
    become m "failed to run command " name args

/-- The complaint of a program from another collection that it was called in a wrong way. -/
def misuseShort {α : Type} (code : Nat) (message : Octets) : ShellM α := do
  grumble message
  say 2 ("Try '".toList ++ (← programName) ++ " --help' for more information.\n".toList)
  exit code

/-- Start a program in a group of its own. -/
def setsid : Utility := fun m args => do
  let g ← readGiven (forms [('c', "ctty"), ('f', "fork"), ('w', "wait")] []) 1 false args
  match g.operands with
  | [] => misuseShort 1 "no command specified".toList
  | name :: args =>
    match ← launchNamed name args with
    | .error e =>
      grumble ("failed to execute ".toList ++ name ++ ": ".toList ++ e.wording.toList)
      return notStarted e
    | .ok l =>
      if g.has 'f' then
        let number ← newProcess
        spawn { (← shell).forProgram number with group := number } (.program l)
        if g.has 'w' then return (← awaitEnding number).status else return 0
      else
        modify fun s =>
          let number := s.shell.number
          { s with
            shell := { s.shell with group := number }
            world := s.world.modifyLiving number fun l => { l with group := number } }
        becomeProgram m l
        return 0

/-- Run a program while a file is locked, which nobody else wants. -/
def flock : Utility := fun m args => do
  let g ← readGiven (forms [('s', "shared"), ('x', "exclusive"), ('e', ""), ('u', "unlock"), ('n', "nonblock"),
    ('o', "close"), ('F', "no-fork"), ('\x01', "verbose"), ('n', "nb")] [('w', "timeout"), ('w', "wait"),
    ('E', "conflict-exit-code"), ('c', "")]) 64 false args
  match g.operands with
  | [] => misuseShort 64 "not enough arguments".toList
  | [name] =>
    if !isNumber name then stop 64 ("bad file descriptor: '".toList ++ name ++ "'".toList)
    else if ((← shell).opened? (digitsValue name)).isNone then
      stop 65 (name ++ ": Bad file descriptor".toList)
    else return 0
  | path :: command =>
    match ← openLocked path with
    | .error e =>
      let code := if e = .noEntry ∨ e = .notDirectory then 66 else 73
      stop code ("cannot open lock file ".toList ++ path ++ ": ".toList ++ e.wording.toList)
    | .ok _ =>
      match command with
      | [flag, text] =>
        if flag = "-c".toList ∨ flag = "--command".toList then return (← runInShell text).status
        else runCommand m flag [text]
      | name :: args => runCommand m name args
      | [] => return 0
where
  openLocked (path : Octets) : ShellM (Except OsError Unit) := do
    if ← isDirectory path then return .ok ()
    else return (← openPath path .appends).map fun _ => ()
  runCommand (_ : Machine) (name : Octets) (args : List Octets) : ShellM Nat := do
    match ← launchNamed name args with
    | .ok l => return (← startNamed l).status
    | .error e =>
      grumble ("failed to execute ".toList ++ name ++ ": ".toList ++ e.wording.toList)
      return 69

/-- A span of time in microseconds, from one in seconds with a letter for its unit; `none` within for one
without end. -/
def interval? (t : Octets) : Option (Option Nat) :=
  let (body, unit) := match t.getLast? with
    | some 's' => (t.dropLast, 1)
    | some 'm' => (t.dropLast, 60)
    | some 'h' => (t.dropLast, 3600)
    | some 'd' => (t.dropLast, 86400)
    | _ => (t, 1)
  if body = "inf".toList ∨ body = "infinity".toList then some none
  else
    let whole := body.takeWhile Char.isDigit
    let part := (body.drop whole.length).drop 1
    let isNumber := body.any Char.isDigit && part.all Char.isDigit &&
      (body.drop whole.length).head?.all (· == '.')
    if isNumber then
      some (some ((digitsValue whole * 1000000 + digitsValue ((part ++ "000000".toList).take 6)) * unit))
    else none

/-- Send a signal to a process and to the own group, which the signal does not end. -/
def sendInTime (g : Given) (signal target : Nat) : ShellM Unit := do
  let p ← shell
  let members := ((← world).living.filter fun l => l.group == p.group && l.number != p.number).map (·.number)
  let others := if g.has 'f' then [] else members.filter (· != target)
  if g.has 'v' then
    grumble ("sending signal ".toList ++ signalName false signal ++ " to command ".toList ++
      quoted ((g.operands.drop 1).headD []))
  modifyWorld (Builtin.noteSignal signal (target :: others))
  if signal ≠ 9 ∧ signal ≠ 18 then modifyWorld (Builtin.noteSignal 18 (target :: others))

/-- Start a program that has to end in time. One that does not is sent a signal, and another one if it still
goes on later. -/
def startInTime (g : Given) (span : Option Nat) (l : Launch) : ShellM Nat := do
  let signal := ((g.value? 's').bind (signal? true 0)).getD 15
  let later := ((g.value? 'k').bind interval?).bind id
  if !g.has 'f' then
    modify fun s =>
      let number := s.shell.number
      { s with
        shell := { s.shell with group := number }
        world := s.world.modifyLiving number fun l => { l with group := number } }
  let number ← newProcess
  spawn ((← shell).forProgram number) (.program l)
  let ended : Event := .ended [number]
  let endOf (span : Option Nat) : ShellM Bool := do
    let time := (span.filter (· ≠ 0)).map ((← world).clock + ·)
    awaitOrCatch (some ended) time maxWaits
    return ended.hasCome (← world)
  if ← endOf span then
    match ← awaitEnding number with
    | .signal n => throw (.killed n)
    | .code n => return n
  else
    sendInTime g signal number
    let isStubborn := !(← endOf later)
    if isStubborn then sendInTime g 9 number
    let ending ← awaitEnding number
    if isStubborn || ending = .signal 9 then throw (.killed 9)
    return if g.has '\x01' then ending.status else 124

def timeout : Utility := fun _ args => do
  let g ← readGiven (forms [('f', "foreground"), ('v', "verbose"), ('\x01', "preserve-status")]
    [('k', "kill-after"), ('s', "signal")]) 125 false args
  match g.operands with
  | interval :: name :: args =>
    match interval? interval with
    | none => misuse 125 ("invalid time interval ".toList ++ quoted interval)
    | some span =>
      match ← launchNamed name args with
      | .ok l => startInTime g span l
      | .error e =>
        grumble ("failed to run command ".toList ++ quoted name ++ ": ".toList ++ e.wording.toList)
        return notStarted e
  | _ =>
    say 2 ("Try '".toList ++ (← programName) ++ " --help' for more information.\n".toList)
    return 125

/-- Let time pass; nobody waits for it. -/
def sleep : Utility := fun _ args => do
  let g ← readGiven [] 1 false args
  requireOperands "missing operand" g.operands
  match g.operands.filter fun t => (interval? t).isNone with
  | [] =>
    passTime (sumOf (g.operands.map fun t => ((interval? t).getD none).getD 0xffffffffffff))
    return 0
  | bad =>
    for t in bad do grumble ("invalid time interval ".toList ++ quoted t)
    say 2 ("Try '".toList ++ (← programName) ++ " --help' for more information.\n".toList)
    return 1

/-- Where the programs of some names are. Options come first, of which all but two are refused. -/
def which : Utility := fun _ args => do
  let options := args.takeWhile fun a => a.length > 1 && a.head? == some '-' && a != ['-', '-']
  let names := match args.drop options.length with
    | ['-', '-'] :: names => names
    | names => names
  let letters := (options.map (·.drop 1)).flatten
  match letters.find? fun c => c != 'a' && c != 's' with
  | some c =>
    say 2 ("Illegal option -".toList ++ [c, '\n'])
    emit "Usage: /usr/bin/which [-as] args\n".toList
    return 2
  | none => pure ()
  let all := letters.contains 'a'
  let silent := letters.contains 's'
  if names = [] then return 1
  else forEach names fun name => do
    let s ← get
    let isProgram (p : Path) : Bool := s.world.tree.isExecutable s.shell.workDir p
    let candidates := if name.contains '/' then [Octets.toText name]
      else (Builtin.searchDirs s.shell).map fun d =>
        if d = [] then '.' :: '/' :: Octets.toText name else d ++ '/' :: Octets.toText name
    let found := candidates.filter isProgram
    if !silent then emit (unlines ((if all then found else found.take 1).map Octets.ofText))
    return found ≠ []

/-- A text in which each occurrence of another is replaced. -/
def replaceAll (mark put : Octets) : (steps : Nat) → Octets → Octets
  | 0, o => o
  | _, [] => []
  | n + 1, c :: r =>
    if mark ≠ [] ∧ mark.isPrefixOf (c :: r) then
      put ++ replaceAll mark put n ((c :: r).drop mark.length)
    else c :: replaceAll mark put n r

/-! ## Signals -/

def killUsage : List String :=
  ["", "Usage:", " kill [options] <pid> [...]", "", "Options:",
    " <pid> [...]            send signal to every <pid> listed",
    " -<signal>, -s, --signal <signal>",
    "                        specify the <signal> to be sent",
    " -q, --queue <value>    integer value to be sent with the signal",
    " -l, --list=[<signal>]  list all signal names, or convert one to a name",
    " -L, --table            list all signal names in a nice table", "",
    " -h, --help     display this help and exit",
    " -V, --version  output version information and exit", "", "For more details see kill(1)."]

def showKillUsage : ShellM Nat := do
  say 2 (unlines (killUsage.map String.toList))
  return 1

/-- The name of a signal in lists. -/
def listedName (n : Nat) : Octets := if n = 29 then "POLL".toList else signalName true n

/-- The names of the signals that have one of their own. -/
def showSignals : ShellM Nat := do
  let line (first last : Nat) : Octets :=
    Text.join [' '] (((List.range (last + 1 - first)).map (· + first)).map listedName)
  emit (unlines [line 1 16, line 17 31])
  return 0

def showSignal (a : Octets) : ShellM Nat := do
  match signal? true 0 a with
  | some n =>
    emitLine (if isNumber a then listedName n else Text.ofNat n)
    return 0
  | none =>
    grumble ("unknown signal name ".toList ++ a)
    return 1

def kill : Utility := fun _ args => do
  if args.head? = some "--help".toList ∨ args.head? = some "-h".toList then
    introduce (unlines (killUsage.map String.toList))
  if args.head? = some "--version".toList ∨ args.head? = some "-V".toList then
    introduce (versionLine "kill".toList)
  let (signal, targets) : Option Nat × List Octets := match args with
    | ['-', 's'] :: name :: rest => (signal? true 0 name, rest)
    | ['-', '-'] :: rest => (some 15, rest)
    | ('-' :: name) :: rest => (signal? true 0 name, rest)
    | rest => (some 15, rest)
  match args with
  | [['-', 'l']] => showSignals
  | ['-', 'l'] :: a :: _ => showSignal a
  | _ =>
    match signal with
    | none => showKillUsage
    | some signal =>
      if targets = [] then showKillUsage
      else forEach targets fun t => do
        let digits := if t.head? = some '-' then t.drop 1 else t
        if !isNumber digits then
          grumble ("failed to parse argument: ".toList ++ quoted t)
          return false
        else if ← Builtin.send signal (digitsValue digits) then return true
        else
          grumble ('(' :: t ++ "): No such process".toList)
          return false

end KarelBuild.Shell.Utility
