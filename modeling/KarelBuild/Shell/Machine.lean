import KarelBuild.Shell.Reading.Command
import KarelBuild.Shell.Redirect

/-!
# Processes that run scripts

A process that is split off has its own state and shares the world; it ends with an exit code or by a signal.
Everything that runs something here takes the machine that carries out tasks one level deeper.
-/

namespace KarelBuild.Shell

open ShellM

abbrev Machine := Task → ShellM Unit

/-! ## Ending -/

/-- Say how a process that was waited for ended, if a signal ended it. -/
def reportEnding : Ending → ShellM Unit
  | .code _ => return
  | .signal n => do if n ≠ 2 ∧ n ≠ 13 then say 2 (signalTitle n ++ ['\n'])

/-! ## Splitting off -/

/-- The lowest slot that is free, or can be made free, with the jobs that are left then. -/
def freeSlot (jobs : List Job) : Nat × List Job :=
  let isTaken (slot : Nat) : Bool := jobs.any fun j => j.slot == slot && !(j.isOver && j.isWaited)
  let slot := (((List.range jobs.length).map (· + 1)).find? (!isTaken ·)).getD (jobs.length + 1)
  (slot, jobs.filter (·.slot != slot))

/-- Note how background processes ended. -/
def noteEndings : ShellM Unit := modify fun s =>
  let endingOf (j : Job) : Option Ending := j.ending.or (s.world.ended.lookup j.number)
  { s with
    jobs := s.jobs.map fun j => { j with ending := endingOf j }
    world := { s.world with ended := s.world.ended.filter fun e => !s.jobs.any (·.number == e.1) } }

/-- Note which jobs are over. -/
def Job.noted (j : Job) : Job := { j with isOver := j.ending.isSome }

/-- Take a number for a new process, which has a slot while it is run. -/
def newProcess : ShellM Nat := do
  noteEndings
  modifyGet fun s =>
    let n := s.world.processes + 1
    (n, { s with world := { s.world with processes := n }, jobs := (freeSlot s.jobs).2.map Job.noted })

/-- A copy of a shell, in which only what is ignored stays trapped. -/
def Process.copy (p : Process) (number : Nat) : Process :=
  let isKept (t : Nat × Octets) : Bool :=
    isIgnored t || (t.1 == failure && p.options.contains Switch.errtrace) ||
      ((t.1 == eachCommand || t.1 == callEnd) && p.options.contains Switch.functrace)
  { p with
    number, parent := p.number, traps := p.traps.filter isKept, formerTraps := p.traps
    caught := [], passing := [], running := [] }

/-- A copy of a shell that is one level further inside. -/
def Process.inner (p : Process) (number : Nat) : Process := { p.copy number with level := p.level + 1 }

/-- The process of a program that is started. -/
def Process.forProgram (p : Process) (number : Nat) : Process :=
  { number, root := number, parent := p.number, group := p.group, workDir := p.workDir
    descriptors := p.descriptors.filter fun d => !p.ownDescriptors.contains d.1
    vars := (p.environment.map fun (name, o) => (name, { content := .text o, exported := true }))
    traps := p.traps.filter isIgnored, umask := p.umask, limits := p.limits, niceness := p.niceness }

/-- How many processes there may be. -/
def maxProcesses : Nat := 20000

/-- Have a process start, which goes on beside this one. -/
def spawn (p : Process) (t : Task) : ShellM Unit := do
  if maxProcesses ≤ (← world).living.length then
    complain "Cannot fork".toList
    failWith 2
  modifyWorld fun w => w.start { p with workDir := p.workDir.after w.tree } t

/-- Wait for a process to end. -/
def awaitEnding (number : Nat) : ShellM Ending := do
  await (.ended [number])
  let ending := ((← world).ended.lookup number).getD (.code 0)
  modifyWorld fun w => { w with ended := w.ended.filter (·.1 != number) }
  return ending

/-- Have a process start and wait for it to end. -/
def runProcess (p : Process) (t : Task) : ShellM Ending := do
  spawn p t
  awaitEnding p.number

/-! ## Running text -/

/-- Say in the rich dialect why commands cannot be read. -/
def reportMistake (e : SyntaxError) (r : Reading) : ShellM Unit := do
  let p ← shell
  let tag := if p.textTag = [] then [] else p.textTag ++ ": ".toList
  let lead := p.complainer ++ ": ".toList ++ tag ++ "line ".toList ++ Text.ofNat e.line ++ ": ".toList
  let shown : List Octets :=
    if e.showsLine then
      ['\x60' :: ((Text.split '\n' r.whole)[e.line - r.firstLine]?.getD []) ++ ['\'']]
    else []
  (e.message :: e.more ++ shown).forM fun t => say 2 (lead ++ t ++ ['\n'])

/-- Read the next command with the aliases and documents that there are now. -/
def readCommand (rest : List Char) (line : Nat) : ShellM (Option (Statement × List Char × Nat)) := do
  let s ← get
  let rich := s.shell.dialect == .rich
  let r : Reading :=
    { rest, line, dialect := s.shell.dialect
      aliases := if rich && !hasHabit s "expand_aliases" then [] else s.shell.aliases
      documents := s.world.documents, extended := hasHabit s "extglob" }
  match nextCommand? r with
  | .ok (none, _) => return none
  | .ok (some c, r) =>
    modifyWorld fun w => { w with documents := r.documents }
    if rich && r.warnings ≠ [] then
      let name := s.shell.complainer
      r.warnings.forM fun t => say 2 (name ++ ": line ".toList ++ t ++ ['\n'])
    return some (c, r.rest, r.line)
  | .error (e, r) =>
    if rich then
      reportMistake e r
      setStatus 2
      throw .unreadable
    else
      modifyShell fun p => { p with line := e.line }
      refuse ("Syntax error: ".toList ++ e.message)

/-- Run a command of a text. In the rich dialect a mistake in it does not keep those behind it from being
run. -/
def runCommand (run : Machine) (flags : Flags) (c : Statement) : ShellM Unit := do
  if ← isRich then
    tryCatch (run (.statement flags c)) fun leave => do
      match leave with
      | .failed => if (← shell).isSubshell then throw .failed
      | .abandoned => if (← shell).isSubshell then throw .abandoned
      | leave => throw leave
  else run (.statement flags c)

/-- In the rich dialect, show the text that has been read if that is asked for. -/
def echoRead (before rest : List Char) : ShellM Unit := do
  if (← isRich) && (← hasOption 'v') then say 2 (before.take (before.length - rest.length))

/-- Run commands one after another as they are read. -/
def runText (run : Machine) (flags : Flags) : (steps : Nat) → List Char → Nat → ShellM Unit
  | 0, _, _ => return
  | n + 1, before, line => do
    match ← readCommand before line with
    | none => return
    | some (c, rest, line) =>
      echoRead before rest
      runCommand run { flags with exits := flags.exits && rest.isEmpty } c
      runText run flags n rest line

/-- Text whose last line is ended, as the rich dialect reads it. -/
def wholeText (source : Text) : ShellM Text := do
  if (← isRich) && source != [] && source.getLast? != some '\n' then return source ++ ['\n'] else return source

/-- Run the first command of a text and those behind it; lines in front of it that are blank are passed over. -/
def runFromFirst (run : Machine) (flags : Flags) : (steps : Nat) → List Char → Nat → ShellM Unit
  | 0, _, _ => return
  | n + 1, before, line => do
    match ← readCommand before line with
    | none => setStatus 0
    | some (.block [], rest, line) =>
      echoRead before rest
      runFromFirst run flags n rest line
    | some (c, rest, line) =>
      echoRead before rest
      runCommand run { flags with exits := flags.exits && rest.isEmpty } c
      runText run flags n rest line

/-- Run text that begins in a line; the status is that of its last command, and 0 if there is none. -/
def evalTextFrom (run : Machine) (flags : Flags) (line : Nat) (source : Text) : ShellM Unit := do
  let source ← wholeText source
  runFromFirst run flags (source.length + 2) source line

def evalText (run : Machine) (flags : Flags) (source : Text) : ShellM Unit := evalTextFrom run flags 1 source

/-! ## Traps and jobs -/

/-- Let go of text that cannot be read. -/
def evenUnreadable (m : ShellM Unit) : ShellM Unit :=
  tryCatch m fun leave =>
    match leave with
    | .unreadable => return
    | leave => throw leave

/-- Run the text of a trap; the status stays as it was. -/
def runTrap (run : Machine) (action : Octets) : ShellM Unit := do
  let before ← status
  evenUnreadable (run (.text {} action))
  setStatus before

/-- Run the trap for an event of the rich dialect, unless it is run already. The line stays the one where the
event came. -/
def runEvent (run : Machine) (event : Nat) : ShellM Unit := do
  let p ← shell
  match trapFor? p event with
  | none => return
  | some action =>
    if action = [] ∨ p.running.contains event then return
    modifyShell fun p => { p with running := event :: p.running }
    let before ← status
    ensuring (evenUnreadable (run (.textAt {} p.line action)))
      (modifyShell fun p => { p with running := p.running.erase event })
    modifyShell fun q => { q with line := p.line, lastArg := p.lastArg }
    setStatus before

/-- See to signals that have come for this process. -/
def seeToSignals (run : Machine) : (steps : Nat) → ShellM Unit
  | 0 => return
  | n + 1 => do
    receive
    match (← shell).caught with
    | [] => return
    | signal :: rest =>
      modifyShell fun p => { p with caught := rest }
      match trapFor? (← shell) signal with
      | some action => if action ≠ [] then runTrap run action
      | none => takeIn signal
      seeToSignals run n

def maxSignals : Nat := 64

/-- Run the trap for the end of the shell; only `exit` in it changes the status. -/
def runExitTrap (run : Machine) : ShellM Unit := do
  match trapFor? (← shell) 0 with
  | some action =>
    let before ← status
    modifyShell fun p => { p with traps := p.traps.filter (·.1 != 0) }
    tryCatch
      (do run (.text {} action); setStatus before)
      fun leave =>
        match leave with
        | .exit => return
        | .failed => return
        | .killed n => throw (.killed n)
        | .outOfSteps => throw .outOfSteps
        | _ => setStatus before
  | _ => return

/-- Run what makes up a shell, up to its very end. -/
def conclude (run : Machine) (m : ShellM Unit) : ShellM Unit := do
  tryCatch m fun leave =>
    match leave with
    | .killed n => throw (.killed n)
    | .outOfSteps => throw .outOfSteps
    | _ => return
  runExitTrap run

/-- Run in a copy of the shell, and wait for it. -/
def inSubshell (change : Process → Process) (t : Task) : ShellM Ending := do
  let number ← newProcess
  runProcess (change ((← shell).copy number)) t

/-! ## Commands in words -/

/-- The copy of a shell in which a command in a word is run. In the rich dialect a failure does not end it. -/
def wordProcess (number : Nat) : ShellM Process := do
  let s ← get
  let p := s.shell.inner number
  if p.dialect = .rich ∧ !hasHabit s "inherit_errexit" then
    return { p with options := p.options.filter (· != 'e'), depth := p.depth + 1 }
  else return { p with depth := p.depth + 1 }

/-- The contents of a file. -/
def outputOfFile (name : Octets) : ShellM Octets := do
  match ← openPath name .reads with
  | .ok n =>
    modifyShell fun p => { p with substituted := some 0, status := 0 }
    match ← takeAll n with
    | .ok (.text o) => return o
    | .ok _ => return []
    | .error e =>
      complain (name ++ ": ".toList ++ e.wording.toList)
      return []
  | .error e =>
    complain (name ++ ": ".toList ++ e.wording.toList)
    modifyShell fun p => { p with substituted := some 1, status := 1 }
    return []

/-- What a command writes. -/
def outputOf (expandName : Word → ShellM Octets) (body : Statement) : ShellM Octets := do
  match ← isRich, body with
  | _, .block [] => return []
  | true, .simple _ [] [] [.file 0 .reads name] => outputOfFile (← expandName name)
  | _, _ =>
    let (_, reading, writing) ← openStream
    let number ← newProcess
    spawn ((← wordProcess number).connect 1 writing) (.statement { exits := true } body)
    let o := match ← takeAll reading with
      | .ok (.text o) => o
      | _ => []
    let ending ← awaitEnding number
    reportEnding ending
    modifyShell fun p => { p with substituted := some ending.status, status := ending.status }
    return o

/-- Descriptors for streams in words come from here downwards. -/
def lastStream : Nat := 63

/-- The name of a stream to or from commands that run beside the shell. -/
def streamOf (reads : Bool) (body : Statement) : ShellM Octets := do
  let (_, reading, writing) ← openStream
  let number ← newProcess
  let p ← wordProcess number
  spawn (p.connect (if reads then 1 else 0) (if reads then writing else reading))
    (.statement { exits := true } body)
  let fd := (← shell).highestFree lastStream
  modifyShell fun p =>
    { p.connect fd (if reads then reading else writing) with
      background := some number, passing := fd :: p.passing }
  return "/dev/fd/".toList ++ Text.ofNat fd

/-- How commands in words are run; those in the name of a file that is read are not. -/
def inWords : Commands where
  output := outputOf fun w =>
    expandText ⟨fun _ => return [], fun _ _ => return []⟩ w
  stream := streamOf

/-- Close what was opened for words since a process was as it is here. -/
def closePassing (before : Process) : ShellM Unit :=
  modifyShell fun p =>
    if p.passing.length ≤ before.passing.length then p
    else
      let late := p.passing.take (p.passing.length - before.passing.length)
      { late.foldl Process.disconnect p with passing := before.passing }

end KarelBuild.Shell
