import KarelBuild.Shell.Mode
import KarelBuild.Shell.Builtin.Variable

/-!
# Builtins for control and processes

Leaving loops, calls and the shell; traps and signals; waiting for background processes; finding out
what a name stands for.
-/

namespace KarelBuild.Shell.Builtin

open ShellM

/-! ## Leaving -/

/-- The exit code that an argument of the rich dialect asks for; without a number it is 2. -/
def richCode (args : List Octets) : ShellM (Option Nat) := do
  let args := if args.head? = some ['-', '-'] then args.drop 1 else args
  match args with
  | [] => return none
  | a :: rest =>
    match Arithmetic.number? a with
    | some n => if rest = [] then return some (n % 256).toNat else tooMany
    | none =>
      complain (a ++ ": numeric argument required".toList)
      return some 2

def exit_ : Builtin := fun _ args => do
  if ← isRich then
    match ← richCode args with
    | none => throw .exit
    | some n => exit n
  else match args with
    | [] => throw .exit
    | a :: _ => exit ((← number a) % 256)

def return_ : Builtin := fun _ args => do
  let p ← shell
  if p.dialect = .rich then
    if p.calls.isEmpty && p.sourced == 0 then
      complain "can only \x60return' from a function or sourced script".toList
      return 2
    else
      match ← richCode args with
      | some n => setStatus n
      | none => pure ()
      throw .endCall
  else
    match args with
    | [] => pure ()
    | a :: _ => setStatus (← number a)
    throw .endCall

/-- Leave loops of the rich dialect. A count that is none ends the shell, one that is too low all loops. -/
def leaveLoopsRich (leave : Nat → Leave) (args : List Octets) : ShellM Nat := do
  let loops := (← shell).loops
  if loops = 0 then
    complain "only meaningful in a \x60for', \x60while', or \x60until' loop".toList
    return 0
  else match args with
    | [] => do
      setStatus 0
      throw (leave 1)
    | a :: _ =>
      match Arithmetic.number? a with
      | none =>
        complain (a ++ ": numeric argument required".toList)
        exit 128
      | some n =>
        if n ≤ 0 then
          complain (a ++ ": loop count out of range".toList)
          setStatus 1
          throw (.endLoops loops)
        else
          setStatus 0
          throw (leave (min n.toNat loops))

def leaveLoops (leave : Nat → Leave) (args : List Octets) : ShellM Nat := do
  if ← isRich then leaveLoopsRich leave args
  else
    let n ← match args with
      | [] => pure 1
      | a :: _ => number a
    if n = 0 then refuse ("Illegal number: ".toList ++ args.headD [])
    else
      let loops := (← shell).loops
      if loops = 0 then return 0
      else
        setStatus 0
        throw (leave (min n loops))

def break_ : Builtin := fun _ => leaveLoops .endLoops

def continue_ : Builtin := fun _ => leaveLoops .nextRound

/-! ## Traps and signals -/

def nameOfSignal (rich : Bool) (n : Nat) : Text :=
  match eventNames.lookup n with
  | some name => name.toList
  | none =>
    let name := signalName rich n
    if rich ∧ !name.all Char.isDigit then "SIG".toList ++ name else name

/-- What traps are shown: those of the shell that this one comes from, until one is set. -/
def shownTraps (p : Process) : List (Nat × Octets) :=
  (if p.dialect = .plain ∨ p.formerTraps = [] then p.traps else p.formerTraps).mergeSort fun a b => a.1 ≤ b.1

def trapLine (rich : Bool) (n : Nat) (action : Octets) : Octets :=
  "trap -- ".toList ++ (if rich then Quoting.single action else singleQuoted action) ++ ' ' ::
    nameOfSignal rich n ++ ['\n']

def showTraps : ShellM Nat := do
  let p ← shell
  print ((shownTraps p).flatMap fun (n, action) => trapLine (p.dialect == .rich) n action)

/-- What a trap may be set for. In the rich dialect that are events too. -/
def trapped? (rich : Bool) (name : Text) : Option Nat :=
  let upper := name.map Char.toUpper
  let bare := if "SIG".toList.isPrefixOf upper then upper.drop 3 else upper
  match signal? rich 0 name with
  | some n => some n
  | none => if rich then (eventNames.find? (·.2.toList == bare)).map (·.1) else none

/-- Show the traps that are named. -/
def showNamedTraps : List Octets → ShellM Nat
  | [] => return 0
  | name :: rest => do
    match trapped? true name with
    | none =>
      complain (name ++ ": invalid signal specification".toList)
      let _ ← showNamedTraps rest
      return 1
    | some n =>
      match (shownTraps (← shell)).lookup n with
      | some action => let _ ← print (trapLine true n action)
      | none => pure ()
      showNamedTraps rest

/-- Set the action of signals, or forget it. -/
def setTraps (action : Option Octets) : List Octets → ShellM Nat
  | [] => return 0
  | name :: rest => do
    match trapped? (← isRich) name with
    | none =>
      if ← isRich then
        complain (name ++ ": invalid signal specification".toList)
        let _ ← setTraps action rest
        return 1
      else
        say 2 ("trap: ".toList ++ name ++ ": bad trap\n".toList)
        return 1
    | some n =>
      modifyShell fun p =>
        let others := p.traps.filter (·.1 != n)
        { p with
          formerTraps := []
          traps := match action with
            | some o => (n, o) :: others
            | none => others }
      setTraps action rest

/-- The names of all signals, as many in a row as fit. -/
def signalTable : Octets :=
  let named := ((List.range maxSignal).map (· + 1)).filter fun n => !(signalName true n).all Char.isDigit
  let cells := named.map fun n =>
    (if n < 10 then [' '] else []) ++ Text.ofNat n ++ ") ".toList ++ nameOfSignal true n
  let ended := (List.range cells.length).zip cells
  ended.flatMap fun (i, o) =>
    o ++ [if i % 5 = 4 ∨ i + 1 = cells.length then '\n' else '\t']

def trap : Builtin := fun _ args => do
  let rich ← isRich
  let (found, args) ← options (if rich then "lp" else "") "" args
  if found.any (·.1 == 'l') then print signalTable
  else match args with
  | [] => showTraps
  | a :: rest =>
    let isNumber := a ≠ [] ∧ a.all Char.isDigit ∧ (signal? false 0 a).isSome
    if found ≠ [] then showNamedTraps args
    else if rich then
      if rest = [] ∧ a ≠ ['-'] then
        if (trapped? true a).isSome then setTraps none args
        else
          sayUsage
          return 2
      else if isNumber then setTraps none args
      else setTraps (if a = ['-'] then none else some a) rest
    else if rest = [] ∨ isNumber then setTraps none args
    else setTraps (if a = ['-'] then none else some a) rest

/-- The background process of a slot; signs stand for the last ones. -/
def jobNumbered (jobs : List Job) (t : Octets) : Option Job :=
  if t = [] ∨ t = ['%'] ∨ t = ['+'] then jobs.getLast?
  else if t = ['-'] then jobs.dropLast.getLast?
  else (String.ofList t).toNat?.bind fun n => jobs.find? (·.slot == n)

/-- The background process that an argument names. -/
def jobNamed (t : Octets) : ShellM Job := do
  let rich ← isRich
  let js := (← get).jobs
  let found := match t with
    | '%' :: name => jobNumbered js name
    | _ => if rich then jobNumbered js t else none
  match found with
  | some j => return j
  | none =>
    if rich then refuse (t ++ ": no such job".toList)
    else if t = ['%'] ∨ t = "%%".toList ∨ t = "%+".toList then refuse "No current job".toList
    else if t = "%-".toList then refuse "No previous job".toList
    else refuse ("No such job: ".toList ++ t)

/-- Stop processes, or let them go on, and note the signal for each of them. -/
def noteSignal (signal : Nat) (targets : List Nat) (w : World) : World :=
  let stops := [19, 20, 21, 22].contains signal
  let goesOn := signal = 18 ∨ signal = 9
  { w with
    living := w.living.map fun l =>
      if targets.contains l.number ∧ (stops ∨ goesOn) then { l with isStopped := stops } else l
    signals := w.signals ++ targets.map (·, signal) }

/-- Send a signal to processes, last of all to the own one. -/
def sendAll (signal : Nat) (targets : List Nat) : ShellM Unit := do
  if signal ≠ 0 then
    let number := (← shell).number
    modifyWorld (noteSignal signal (targets.filter (· != number)))
    if targets.contains number then takeIn signal

/-- Send a signal; tells whether there is somebody to get it. -/
def send (signal target : Nat) : ShellM Bool := do
  let w ← world
  let isOver := w.ended.any (·.1 == target)
  if (w.living? target).isSome then sendAll signal [target]
  return (w.living? target).isSome || isOver && !(← isRich)

/-- Send a signal to all processes of a group. -/
def sendToGroup (signal group : Nat) : ShellM Bool := do
  let members := ((← world).living.filter (·.group == group)).map (·.number)
  sendAll signal members
  return members ≠ []

/-- Send a signal to who a number stands for: a process, or with a sign or for 0 a group. -/
def sendTo (signal : Nat) (isGroup : Bool) (n : Nat) : ShellM Bool := do
  if n = 0 then sendToGroup signal (← shell).group
  else if isGroup then sendToGroup signal n
  else send signal n

def killAll (signal : Nat) : List Octets → ShellM Nat
  | [] => return 0
  | t :: rest => do
    let rich ← isRich
    let code ← match t with
      | '%' :: _ =>
        let j ← jobNamed t
        if ← (if rich then send signal j.number else sendToGroup signal j.number) then pure 0
        else
          complain (if rich then '(' :: Text.ofNat j.number ++ ") - No such process".toList
            else "No such process\n".toList)
          pure 1
      | _ =>
        let digits := if t.head? = some '-' then t.drop 1 else t
        if digits = [] ∨ !digits.all Char.isDigit then
          if rich then
            complain (t ++ ": arguments must be process or job IDs".toList)
            pure 1
          else refuse ("Illegal number: ".toList ++ t)
        else if ← sendTo signal (t.head? == some '-') ((String.ofList digits).toNat?.getD 0) then pure 0
        else
          if rich then complain ('(' :: t ++ ") - No such process".toList)
          else complain "No such process\n".toList
          pure 1
    let more ← killAll signal rest
    return max code more

def killUsage : Octets :=
  "Usage: kill [-s sigspec | -signum | -sigspec] [pid | job]... or\nkill -l [exitstatus]".toList

/-- The name of the signal that a number or an exit code stands for, or the number of a name. -/
def listSignal (a : Octets) : ShellM Nat := do
  let rich ← isRich
  if rich ∧ !a.all Char.isDigit then
    match signal? true 0 a with
    | some n => printLine (Text.ofNat n)
    | none =>
      complain (a ++ ": invalid signal specification".toList)
      return 1
  else
    let n ← number a
    let signal := if 128 < n then n - 128 else n
    if 0 < signal ∧ signal ≤ maxSignal then printLine (signalName rich signal)
    else if rich then
      complain (a ++ ": invalid signal specification".toList)
      return 1
    else refuse ("invalid signal number or exit status: ".toList ++ a)

def listSignals (args : List Octets) : ShellM Nat := do
  match args with
  | [] =>
    if ← isRich then print signalTable
    else
      let names := ((List.range maxSignal).map (· + 1)).map (signalName false)
      print ("0\n".toList ++ names.flatMap (· ++ ['\n']))
  | a :: rest =>
    if ← isRich then
      let mut code := 0
      for a in a :: rest do code := max code (← listSignal a)
      return code
    else listSignal a

/-- Send a signal to those named; there has to be somebody. -/
def killThose (signal : Nat) (targets : List Octets) : ShellM Nat := do
  if targets ≠ [] then killAll signal targets
  else if ← isRich then
    sayUsage
    return 2
  else refuse killUsage

def kill : Builtin := fun _ args => do
  let rich ← isRich
  let least := if rich then 0 else 1
  match args with
  | [] => killThose 15 []
  | ('-' :: name) :: rest =>
    match signal? rich least name with
    | some n => killThose n (if rich ∧ rest.head? = some ['-', '-'] then rest.drop 1 else rest)
    | none =>
      match name with
      | 's' :: value =>
        match (if value = [] then rest else value :: rest) with
        | [] => if rich then refuse "-s: option requires an argument".toList else refuse "No arg for -s option".toList
        | value :: rest =>
          match signal? rich least value with
          | some n => killThose n (if rest.head? = some ['-', '-'] then rest.drop 1 else rest)
          | none =>
            if rich then refuse (value ++ ": invalid signal specification".toList)
            else refuse ("invalid signal number or name: ".toList ++ value)
      | ['l'] => listSignals rest
      | ['-'] => killThose 15 rest
      | [] => killThose 15 args
      | c :: _ =>
        if rich then refuse (name ++ ": invalid signal specification".toList)
        else refuse ("Illegal option -".toList ++ [c])
  | _ => killThose 15 args

/-! ## Background processes -/

def markWaited (isMeant : Job → Bool) : ShellM Unit := modify fun s =>
  { s with jobs := s.jobs.map fun j => if isMeant j then { j.noted with isWaited := true } else j }

/-- The status for a wait that a signal broke off. -/
def brokenOff? : ShellM (Option Nat) := do return (← shell).caught.head?.map (128 + ·)

/-- The status of a background process that is waited for. -/
def waitFor (target : Nat) : ShellM Nat := do
  noteEndings
  let isMeant (j : Job) : Bool := j.number == target
  match (← get).jobs.find? isMeant with
  | some j =>
    let isKnown := j.isOver
    if j.ending.isNone then awaitOrCatch (some (.ended [target])) none maxWaits
    noteEndings
    match ((← get).jobs.find? isMeant).bind (·.ending) with
    | some ending =>
      markWaited isMeant
      if !isKnown && !(← isRich) then reportEnding ending
      return ending.status
    | none => return (← brokenOff?).getD 0
  | none =>
    if ← isRich then
      complain ("pid ".toList ++ Text.ofNat target ++ " is not a child of this shell".toList)
    return 127

/-- Wait for all background processes. -/
def waitForAll : ShellM Nat := do
  noteEndings
  for number in (← get).jobs.map (·.number) do
    let isLeft := (← get).jobs.any fun j => j.number == number && j.ending.isNone
    if isLeft && (← shell).caught = [] then
      awaitOrCatch (some (.ended [number])) none maxWaits
      noteEndings
  match ← brokenOff? with
  | some code => return code
  | none =>
    markWaited fun _ => true
    return 0

/-- Wait for the background process that is over first. -/
def waitForNext : ShellM Nat := do
  noteEndings
  let left := (← get).jobs.filter fun j => !j.isWaited
  if left = [] then return 127
  if left.all (·.ending.isNone) then
    awaitOrCatch (some (.ended (left.map (·.number)))) none maxWaits
    noteEndings
  match (← get).jobs.find? fun j => !j.isWaited && j.ending.isSome with
  | some j =>
    markWaited (·.number == j.number)
    return (j.ending.map Ending.status).getD 0
  | none => return (← brokenOff?).getD 0

def wait : Builtin := fun _ args => do
  let (found, args) ← options (if ← isRich then "nf" else "") "" args
  if found.any (·.1 == 'n') then waitForNext
  else match args with
  | [] => waitForAll
  | _ =>
    let mut code := 0
    for a in args do
      match a with
      | '%' :: _ =>
        if ← isRich then
          match jobNumbered (← get).jobs (a.drop 1) with
          | some j => code ← waitFor j.number
          | none =>
            complain (a ++ ": no such job".toList)
            code := 127
        else code ← waitFor (← jobNamed a).number
      | _ => code ← waitFor (← number a)
    return code

/-- What became of a job. -/
def endingText : Option Ending → Octets
  | none => "Running".toList
  | some (.code 0) => "Done".toList
  | some (.code n) => "Done(".toList ++ Text.ofNat n ++ [')']
  | some (.signal n) => signalTitle n

def jobLine (sign : Char) (withNumber : Bool) (j : Job) : Octets :=
  let text := '[' :: Text.ofNat j.slot ++ ']' :: ' ' :: sign :: ' ' ::
    (if withNumber then Text.ofNat j.number ++ [' '] else []) ++
    endingText (if j.isOver then j.ending else none)
  text ++ List.replicate (max 1 (33 - text.length)) ' ' ++ ['\n']

/-- A job of the rich dialect. -/
def jobLineRich (sign : Char) (withNumber : Bool) (j : Job) : Octets :=
  let state := "Running".toList
  '[' :: Text.ofNat j.slot ++ ']' :: sign :: ' ' ::
    (if withNumber then Text.ofNat j.number ++ [' '] else [' ']) ++
    state ++ List.replicate (24 - state.length) ' ' ++ j.text ++ " &\n".toList

/-- Show a job; one that is over is forgotten. -/
def showJob (letters : List Char) (j : Job) : ShellM Nat := do
  let js := (← get).jobs
  let isAt (i : Nat) : Bool := (js.reverse[i]?).any (·.slot == j.slot)
  let sign := if isAt 0 then '+' else if isAt 1 then '-' else ' '
  if letters.contains 'p' then printLine (Text.ofNat j.number)
  else
    if j.isOver then modify fun s => { s with jobs := s.jobs.filter (·.slot != j.slot) }
    if ← isRich then print (jobLineRich sign (letters.contains 'l') j)
    else print (jobLine sign (letters.contains 'l') j)

def jobs : Builtin := fun _ args => do
  let (found, args) ← options (if ← isRich then "lprsnx" else "lp") "" args
  let letters := found.map (·.1)
  noteEndings
  modify fun s => { s with jobs := s.jobs.map Job.noted }
  if args = [] then
    let js := (← get).jobs
    let shown := if ← isRich then js.filter (·.ending.isNone) else js.reverse
    for j in shown do
      let _ ← showJob letters j
  else
    for a in args do
      let _ ← showJob letters (← jobNamed a)
  return 0

def noJob : Builtin := fun _ args => do
  if ← isRich then refuse "no job control".toList
  else match args with
    | a :: _ => refuse ("No such job: ".toList ++ a)
    | [] => refuse "No current job".toList

def times : Builtin := fun _ _ => do
  if ← isRich then print "0m0.000s 0m0.000s\n0m0.000s 0m0.000s\n".toList
  else print "0m0.000000s 0m0.000000s\n0m0.000000s 0m0.000000s\n".toList

/-! ## Permissions of new files -/

/-- What a mask leaves to owner, group and others. -/
def symbolicMask (mask : Nat) : Octets :=
  let letters (shift : Nat) : Octets :=
    let bits := mask >>> shift
    (if bits % 8 / 4 = 0 then ['r'] else []) ++ (if bits % 4 / 2 = 0 then ['w'] else []) ++
      if bits % 2 = 0 then ['x'] else []
  "u=".toList ++ letters 6 ++ ",g=".toList ++ letters 3 ++ ",o=".toList ++ letters 0

def umask : Builtin := fun _ args => do
  let (found, args) ← options (if ← isRich then "Sp" else "S") "" args
  let mask := (← shell).umask
  let shown (n : Nat) : Octets := if found.any (·.1 == 'S') then symbolicMask n else Mode.octalText 4 n
  match args with
  | [] =>
    let lead := if found.any (·.1 == 'p') then
        (if found.any (·.1 == 'S') then "umask -S " else "umask ").toList
      else []
    printLine (lead ++ shown mask)
  | a :: _ =>
    if a.head?.any Char.isDigit then
      let isRich ← isRich
      if a.all isOctalDigit ∧ (!isRich ∨ Arithmetic.valueIn 8 a ≤ 0o777) then
        modifyShell fun p => { p with umask := Arithmetic.valueIn 8 a % 512 }
        return 0
      else if isRich then refuse (a ++ ": octal number out of range".toList)
      else refuse ("Illegal number: ".toList ++ a)
    else
      match Mode.ofText? a with
      | some clauses =>
        let granted := Mode.applyAll false 0 clauses (0o777 ^^^ mask)
        modifyShell fun p => { p with umask := 0o777 ^^^ (granted &&& 0o777) }
        if (← isRich) && found.any (·.1 == 'S') then
          printLine (symbolicMask (← shell).umask)
        else return 0
      | none =>
        if ← isRich then
          let bad := (a.dropWhile fun c => (Mode.whoBits c).isSome).head?
          match bad with
          | some c =>
            if Mode.isOperator c then
              let wrong := (a.find? fun c => (Mode.letterBits c).isNone && !Mode.isOperator c &&
                (Mode.whoBits c).isNone && c != ',').getD c
              refuse ("`".toList ++ [wrong] ++ "': invalid symbolic mode character".toList)
            else refuse ("`".toList ++ [c] ++ "': invalid symbolic mode operator".toList)
          | none => refuse "`': invalid symbolic mode operator".toList
        else refuse ("Illegal mode: ".toList ++ a)

/-- What can be limited: its letter, what it is called, the unit, and the usual limit. -/
def limitNames : List (Char × String × Nat × Option Nat) :=
  [('t', "time(seconds)", 1, none), ('f', "file(blocks)", 512, none), ('d', "data(kbytes)", 1024, none),
    ('s', "stack(kbytes)", 1024, some 0x800000), ('c', "coredump(blocks)", 512, some 0),
    ('m', "memory(kbytes)", 1024, none), ('l', "locked memory(kbytes)", 1024, none),
    ('p', "process", 1, none), ('n', "nofiles", 1, some 0x100000), ('v', "vmemory(kbytes)", 1024, none),
    ('w', "locks", 1, none), ('r', "rtprio", 1, some 0)]

/-- The unit of what a letter limits, and the usual limit. -/
def limitUnit (rich : Bool) (letter : Char) : Nat × Option Nat :=
  let letter := if rich && letter == 'u' then 'p' else letter
  match limitNames.find? (·.1 == letter) with
  | some (_, _, unit, usual) => (if rich && unit == 512 then 1024 else unit, usual)
  | none => (1, none)

def ulimit : Builtin := fun _ args => do
  let rich ← isRich
  let (found, args) ← options (if rich then "HSabcdefiklmnpqrstuvxPRT" else "HSatfdscmlpnvwr") "" args
  let letters := (found.map (·.1)).filter fun c => c != 'H' && c != 'S'
  let letter := (letters.getLast?).getD 'f'
  let (unit, usual) := limitUnit rich letter
  let now := ((← shell).limits.lookup letter).or usual
  let shown (limit : Option Nat) (unit : Nat) : Octets :=
    (limit.map fun n => Text.ofNat (n / unit)).getD "unlimited".toList
  match args with
  | [] =>
    if letter = 'a' ∧ !rich then
      let limits := (← shell).limits
      print (limitNames.flatMap fun (c, name, unit, usual) =>
        name.toList ++ List.replicate (21 - name.length) ' ' ++ shown ((limits.lookup c).or usual) unit ++ ['\n'])
    else printLine (shown now unit)
  | value :: rest =>
    if rest ≠ [] ∧ !rich then refuse "too many arguments".toList
    let limit ← if value = "unlimited".toList then pure none
      else if rich ∧ (value = "hard".toList ∨ value = "soft".toList) then pure now
      else if value ≠ [] ∧ value.all Char.isDigit then pure (some (Arithmetic.valueIn 10 value * unit))
      else if rich then refuse (value ++ ": invalid number".toList)
      else refuse "bad number".toList
    modifyShell fun p =>
      let others := p.limits.filter (·.1 != letter)
      { p with limits := match limit with
          | some n => (letter, n) :: others
          | none => others }
    return 0

/-! ## What names stand for -/

def plainNames : List Text :=
  ["[", "alias", "bg", "cd", "chdir", "command", "echo", "false", "fg", "getopts", "hash", "jobs",
    "kill", "printf", "pwd", "read", "test", "true", "type", "ulimit", "umask", "unalias", "wait"].map
    String.toList

def richNames : List Text :=
  ["bind", "builtin", "caller", "compgen", "complete", "compopt", "declare", "dirs", "disown", "enable", "fc",
    "help", "history", "let", "local", "logout", "mapfile", "popd", "pushd", "readarray", "shopt", "source", "suspend", "typeset"].map String.toList

def isBuiltin (rich : Bool) (name : Text) : Bool :=
  plainNames.contains name || specialBuiltins.contains name || (rich && richNames.contains name)

/-- A special builtin ends the shell when it fails, and keeps what is assigned before it. The rich dialect
has none. -/
def isSpecial (rich : Bool) (name : Text) : Bool :=
  specialBuiltins.contains name && !rich

/-- Where programs are looked for. -/
def searchDirs (p : Process) : List Path :=
  ((p.value? "PATH".toList).map fun t => Text.split ':' (Octets.toText t)).getD [[]]

/-- The paths of the programs that a name stands for, what is run first in front. The rich dialect wants that
they can be run. -/
def programPaths (s : State) (name : Text) : List Octets :=
  let t := Octets.toText name
  let isThere := if s.shell.dialect = .rich then s.world.tree.isExecutable else s.world.tree.pathExists
  if name.contains '/' then if isThere s.shell.workDir t then [name] else []
  else
    let paths := (searchDirs s.shell).map fun d => Launch.pathIn d t
    (paths.filter (s.world.tree.isExecutable s.shell.workDir)).map Octets.ofText

def programPath (s : State) (name : Text) : Option Octets := (programPaths s name).head?

inductive Meaning where
  | keyword
  | alias (text : Octets)
  | function
  | special
  | builtin
  | program (path : Octets)
  deriving DecidableEq, Repr

def meaning? (s : State) (name : Text) : Option Meaning :=
  let rich := s.shell.dialect == .rich
  if keywords.contains name || (rich && richKeywords.contains name) then some .keyword
  else match (if rich && !hasHabit s "expand_aliases" then none else s.shell.aliases.lookup name) with
    | some o => some (.alias o)
    | none =>
      if (s.shell.functions.lookup name).isSome then some .function
      else if isBuiltin rich name && !s.shell.disabled.contains name then
        some (if isSpecial rich name then .special else .builtin)
      else (programPath s name).map .program

/-- Note that a program was found, and that it is run. -/
def noteFound (runs : Bool) (name : Text) : ShellM Unit :=
  modifyShell fun p =>
    let hits := (p.found.lookup name).getD 0 + if runs then 1 else 0
    { p with found := (name, hits) :: p.found.filter (·.1 != name) }

def isFound (p : Process) (name : Text) : Bool := p.found.any (·.1 == name)

/-- Tell what a name stands for, in a sentence. -/
def meaningText (s : State) (name : Text) (m : Meaning) : Octets :=
  let rich := s.shell.dialect == .rich
  name ++ match m with
    | .keyword => " is a shell keyword".toList
    | .alias o =>
      if rich then " is aliased to \x60".toList ++ o ++ ['\''] else " is an alias for ".toList ++ o
    | .function =>
      if rich then " is a function\n".toList ++
        ((s.shell.functions.lookup name).map (Written.function name)).getD []
      else " is a shell function".toList
    | .special => if rich then " is a shell builtin".toList else " is a special shell builtin".toList
    | .builtin => " is a shell builtin".toList
    | .program path =>
      if !isFound s.shell name then " is ".toList ++ path
      else if rich then " is hashed (".toList ++ path ++ [')']
      else " is a tracked alias for ".toList ++ path

def explain (name : Text) : ShellM Nat := do
  let s ← get
  match meaning? s name with
  | none =>
    if s.shell.dialect = .rich then
      complain (name ++ ": not found".toList)
      return 1
    else
      let _ ← printLine (name ++ ": not found".toList)
      return 127
  | some m => printLine (meaningText s name m)

/-- The kind of thing that a name stands for, in one word. -/
def kindWord : Meaning → String
  | .keyword => "keyword"
  | .alias _ => "alias"
  | .function => "function"
  | .special => "builtin"
  | .builtin => "builtin"
  | .program _ => "file"

/-- All that a name stands for, what comes first in front. -/
def meanings (s : State) (withFunctions : Bool) (name : Text) : List Meaning :=
  let p := s.shell
  let rich := p.dialect == .rich
  let aliases := if hasHabit s "expand_aliases" || !rich then ((p.aliases.lookup name).map .alias).toList else []
  let keyword := if keywords.contains name || (rich && richKeywords.contains name) then [Meaning.keyword] else []
  let function := if withFunctions && (p.functions.lookup name).isSome then [Meaning.function] else []
  let builtin := if isBuiltin rich name && !p.disabled.contains name then [Meaning.builtin] else []
  aliases ++ keyword ++ function ++ builtin ++ (programPaths s name).map .program

/-- Tell of a name as letters ask for; tells whether there was something. -/
def typeOne (letters : List Char) (name : Text) : ShellM Bool := do
  let s ← get
  let found := meanings s (!letters.contains 'f') name
  let found := if letters.contains 'P' then (programPaths s name).map .program else found
  let found := if letters.contains 'a' then found else found.take 1
  for m in found do
    if letters.contains 't' then let _ ← printLine (kindWord m).toList
    else if letters.contains 'p' ∨ letters.contains 'P' then
      match m with
      | .program path => let _ ← printLine path
      | _ => pure ()
    else
      let shown := if letters.contains 'a' then { s with shell := { s.shell with found := [] } } else s
      let _ ← printLine (meaningText shown name m)
  if found = [] ∧ !letters.contains 't' ∧ !letters.contains 'p' ∧ !letters.contains 'P' then
    complain (name ++ ": not found".toList)
  return found ≠ []

def type_ : Builtin := fun _ args => do
  let (found, args) ← options (if ← isRich then "afptP" else "") "" args
  let letters := found.map (·.1)
  let mut code := 0
  for a in args do
    if ← isRich then
      if !(← typeOne letters a) then code := 1
    else code := max code (← explain a)
  return code

/-- What would be run for a name: its path, or the name itself. -/
def commandPath (name : Text) : ShellM Nat := do
  let s ← get
  match meaning? s name with
  | none => return if ← isRich then 1 else 127
  | some (.alias o) =>
    printLine ("alias ".toList ++ name ++ '=' :: if ← isRich then Quoting.single o else singleQuoted o)
  | some (.program path) =>
    if !name.contains '/' && !(← isRich) then noteFound false name
    printLine path
  | some _ => printLine name

/-! ## Programs that have been found -/

/-- The programs that have been found, in the order of a table. -/
def foundInOrder (p : Process) : List (Octets × Nat) :=
  p.found.mergeSort fun a b => Content.slotOf a.1 % 256 ≤ Content.slotOf b.1 % 256

def showFound : ShellM Nat := do
  let s ← get
  let rich := s.shell.dialect == .rich
  let lines := (foundInOrder s.shell).flatMap fun (name, hits) =>
    match programPath s name with
    | none => []
    | some path =>
      if rich then
        let n := Text.ofNat hits
        List.replicate (4 - n.length) ' ' ++ n ++ '\t' :: path ++ ['\n']
      else path ++ ['\n']
  if rich ∧ lines = [] then printLine "hash: hash table empty".toList
  else print ((if rich then "hits\tcommand\n".toList else []) ++ lines)

def hash : Builtin := fun _ args => do
  let (found, args) ← options (if ← isRich then "rdlt" else "rv") (if ← isRich then "p" else "") args
  let letters := found.map (·.1)
  if letters.contains 'r' then modifyShell fun p => { p with found := [] }
  if args = [] then if letters.contains 'r' then return 0 else showFound
  else
    let mut code := 0
    for a in args do
      let s ← get
      let isMissing := if letters.contains 't' ∨ letters.contains 'd' then !isFound s.shell a
        else (meaning? s a).isNone
      if isMissing then
        complain (a ++ ": not found".toList)
        code := 1
      else if letters.contains 't' then
        let path := (programPath s a).getD []
        let _ ← printLine (if args.length > 1 then a ++ '\t' :: path else path)
      else if letters.contains 'd' then modifyShell fun p => { p with found := p.found.filter (·.1 != a) }
      else match meaning? s a with
        | some (.program _) => noteFound false a
        | _ => pure ()
    return code

/-! ## Builtins of the rich dialect -/

def builtinNames : List Text :=
  ((plainNames ++ richNames ++ specialBuiltins).filter (· != "chdir".toList)).mergeSort Text.le

/-- Turn builtins on or off, or list them. -/
def enable : Builtin := fun _ args => do
  let (found, args) ← options "andps" "f" args
  let off := found.any (·.1 == 'n')
  let p ← shell
  if args = [] then
    let all := found.any (·.1 == 'a')
    print (builtinNames.flatMap fun name =>
      let isOff := p.disabled.contains name
      if all || isOff == off then
        (if isOff then "enable -n ".toList else "enable ".toList) ++ name ++ ['\n'] else [])
  else
    let mut code := 0
    for a in args do
      if builtinNames.contains a then
        modifyShell fun p =>
          let others := p.disabled.filter (· != a)
          { p with disabled := if off then a :: others else others }
      else
        complain (a ++ ": not a shell builtin".toList)
        code := 1
    return code

/-- Tell where a call comes from. -/
def caller : Builtin := fun _ args => do
  let p ← shell
  match args with
  | [] =>
    match p.calls with
    | [] => return 1
    | c :: rest =>
      let source := ((rest.map (·.source)).head?.or p.source).getD "NULL".toList
      printLine (Text.ofNat c.line ++ ' ' :: source)
  | a :: _ =>
    let n ← richNumber a
    let names := p.callNames
    match p.calls[n.toNat]? with
    | some c =>
      if n < 0 then return 1
      else match names[n.toNat + 1]? with
        | some name =>
          printLine (Text.ofNat c.line ++ ' ' :: name ++ ' ' :: (p.callSources[n.toNat + 1]?).getD [])
        | none => return 1
    | none => return 1

/-- Directories and files whose names begin with a text. -/
def pathsLike (s : State) (onlyDirs : Bool) (front : Octets) : List Octets :=
  let (dir, start) := match Text.cutLast '/' front with
    | some (dir, start) => (dir ++ ['/'], start)
    | none => ([], front)
  let names := (childrenOf s dir).filter fun n => start.isPrefixOf n && (start != [] || n.head? != some '.')
  (names.filter fun n => !onlyDirs || s.world.tree.isDir s.shell.workDir (Octets.toText (dir ++ n))).map (dir ++ ·)

/-- The names of a kind that letters or words stand for. -/
def namesOf (s : State) (front : Octets) (kind : Text) : List Octets :=
  let p := s.shell
  let sorted (names : List Octets) : List Octets := names.mergeSort Text.le
  let functions := sorted (p.functions.map (·.1))
  let vars := sorted (p.vars.map (·.1))
  match String.ofList kind with
  | "function" => functions
  | "builtin" => builtinNames
  | "alias" => sorted (p.aliases.map (·.1))
  | "keyword" => keywords ++ richKeywords
  | "variable" => vars
  | "export" => sorted ((p.vars.filter (·.2.exported)).map (·.1))
  | "arrayvar" => sorted ((p.vars.filter fun v => match v.2.content with
      | .list _ => true
      | .table _ => true
      | _ => false).map (·.1))
  | "directory" => pathsLike s true front
  | "file" => pathsLike s false front
  | "shopt" => Switch.habits.map (·.1.toList)
  | "setopt" => Switch.rich.map (·.name.toList)
  | "enabled" => builtinNames.filter (!p.disabled.contains ·)
  | "disabled" => p.disabled
  | "user" => ["root".toList]
  | "command" =>
    keywords ++ richKeywords ++ functions ++ builtinNames ++ sorted ((searchDirs p).flatMap fun d =>
      (childrenOf s (Octets.ofText d)).filter fun n =>
        s.world.tree.isExecutable p.workDir (Launch.pathIn d (Octets.toText n)))
  | _ => []

/-- What a word might be completed to. -/
def compgen : Builtin := fun _ args => do
  let (found, args) ← options "abcdefgjksuv" "oAGWFCXPS" args
  let s ← get
  let front := args.headD []
  let kindOf (e : Char × Octets) : Option Text :=
    match e.1 with
    | 'A' => some e.2
    | c => ([('a', "alias"), ('b', "builtin"), ('c', "command"), ('d', "directory"), ('e', "export"), ('f', "file"),
        ('k', "keyword"), ('u', "user"), ('v', "variable")].lookup c).map String.toList
  let named := (found.filterMap kindOf).flatMap (namesOf s front)
  let listed := found.flatMap fun e =>
    if e.1 = 'W' then Cutting.fields (Separators.ofProcess s.shell) [⟨.atSeparators, Glyph.ofText false e.2⟩]
    else []
  let words := listed.map fun f => (f.filterMap Glyph.marked?).map (·.1)
  let value (c : Char) : Octets := ((found.find? (·.1 == c)).map (·.2)).getD []
  let all := (named ++ words).filter (front.isPrefixOf ·)
  let _ ← print (all.flatMap fun o => value 'P' ++ o ++ value 'S' ++ ['\n'])
  return if all = [] then 1 else 0

/-- Say how builtins are used. -/
def help : Builtin := fun _ args => do
  let (_, args) ← options "dms" "" args
  let mut code := 0
  for a in args do
    match usageOf? a with
    | some usage =>
      let name := if a = [':'] then a else a ++ [':']
      let _ ← printLine (name ++ (if a = [':'] then [':'] else []) ++ ' ' :: usage)
    | none =>
      complain ("no help topics match \x60".toList ++ a ++ "'.  Try \x60help help' or \x60man -k ".toList ++ a ++
        "' or \x60info ".toList ++ a ++ "'.".toList)
      code := 1
  return code

def logout : Builtin := fun _ _ => refuse "not login shell: use \x60exit'".toList

/-- Let go of jobs. -/
def disown : Builtin := fun _ args => do
  let (found, args) ← options "har" "" args
  if args = [] then
    if found.any fun e => e.1 == 'a' || e.1 == 'r' then return 0
    else match (← get).jobs.reverse.find? (!·.isWaited) with
      | some _ => return 0
      | none => refuse "current: no such job".toList
  else forEachJob args
where
  forEachJob : List Octets → ShellM Nat
    | [] => return 0
    | a :: rest => do
      let name := if a.head? = some '%' then a.drop 1 else a
      let js := (← get).jobs
      let isKnown := (jobNumbered js name).isSome || js.any fun j => Text.ofNat j.number == a
      if !isKnown then complain (a ++ ": no such job".toList)
      let code ← forEachJob rest
      return if isKnown then code else 1

def succeed : Builtin := fun _ _ => return 0

def fail_ : Builtin := fun _ _ => return 1

end KarelBuild.Shell.Builtin
