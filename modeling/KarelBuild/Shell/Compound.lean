import KarelBuild.Shell.Regex.Reading
import KarelBuild.Shell.Simple

/-!
# Compound commands

Lists, choices, loops, subshells and pipelines are carried out by what is nested in them. The exit
code of a command is the status of the shell; with the option `e`, a command that fails ends the
shell unless its status is tested.
-/

namespace KarelBuild.Shell

open ShellM

section

variable (m : Machine)

/-! ## Loops -/

/-- How a round of a loop ends: whether the loop goes on, and its status if it does not. -/
structure Round where
  goesOn : Bool
  status : Nat

/-- Let a round be left early. -/
def inRound (round : ShellM Round) : ShellM Round := do
  tryCatch round fun leave =>
    match leave with
    | .endLoops n => do if n ≤ 1 then return ⟨false, ← status⟩ else throw (.endLoops (n - 1))
    | .nextRound n => do if n ≤ 1 then return ⟨true, ← status⟩ else throw (.nextRound (n - 1))
    | leave => throw leave

def rounds (round : Nat → ShellM Round) : (limit : Nat) → (last : Nat) → ShellM Nat
  | 0, _ => throw .outOfSteps
  | n + 1, last => do
    let r ← inRound (round last)
    if r.goesOn then rounds round n r.status else return r.status

def maxRounds : Nat := 0x10000000

/-- Run a loop, which `break` and `continue` know of. -/
def asLoop (loop : ShellM Nat) : ShellM Unit := do
  modifyShell fun p => { p with loops := p.loops + 1 }
  let code ← ensuring loop (modifyShell fun p => { p with loops := p.loops - 1 })
  setStatus code

def testedLoop (flags : Flags) (expected : Bool) (test body : Statement) : ShellM Unit :=
  asLoop (rounds (fun last => do
    m (.statement { tested := true } test)
    if ((← status) == 0) != expected then return ⟨false, last⟩
    else
      m (.statement { tested := flags.tested } body)
      return ⟨true, ← status⟩) maxRounds 0)

/-- Set the variable of a loop, or what it stands for if it is one for others. -/
def setLoopVar (name : Text) (o : Octets) : ShellM Unit := do
  match (← shell).var? name with
  | some v => if v.refers then putVar name { v with content := .text o } else assignVar name o
  | none => setVar name o

def eachField (flags : Flags) (before : ShellM Unit) (name : Text) (body : Statement) :
    List Octets → (last : Nat) → ShellM Nat
  | [], last => return last
  | o :: rest, _ => do
    before
    setLoopVar name o
    let r ← inRound do
      m (.statement { tested := flags.tested } body)
      return ⟨true, ← status⟩
    if r.goesOn then eachField flags before name body rest r.status else return r.status

/-- The words of a command's head as they are written. -/
def writtenWords (words : List Word) : Octets := Text.join [' '] (words.map Written.word)

def runEach (flags : Flags) (line : Nat) (name : Text) (words : List Word) (body : Statement) : ShellM Unit := do
  let rich ← isRich
  if rich && !isName name then
    complain ('\x60' :: name ++ "': not a valid identifier".toList)
    setStatus 1
  else
    let fields ← words.flatMapM (expandFields inWords)
    let head := "for ".toList ++ name ++ " in ".toList
    let before : ShellM Unit := do
      if rich then
        modifyShell fun p => { p with line }
        traceRich (head ++ writtenWords words)
        announce m (.each line name words (.block []))
    asLoop (eachField m flags before name body fields 0)

/-- Do what is named by signs, which complains under them; a failure is its status. -/
def underSigns (signs : String) (f : ShellM Unit) : ShellM Unit := do
  let before := (← shell).builtin
  modifyShell fun p => { p with builtin := some signs.toList }
  tryCatch (ensuring f (modifyShell fun p => { p with builtin := before })) fun leave =>
    match leave with
    | .failed => return
    | leave => throw leave

/-- Work out a part of a counting loop. -/
def countPart (w : Word) : ShellM Int := do
  let t ← expandText inWords w
  if t.all (· == ' ') then return 1
  else
    traceRich ("(( ".toList ++ t ++ " ))".toList)
    Arithmetic.value t

def runCount (flags : Flags) (line : Nat) (first test next : Word) (body : Statement) : ShellM Unit := do
  let part (w : Word) : ShellM Int := do
    modifyShell fun p => { p with line }
    announce m (.sum line w)
    countPart w
  underSigns "((" do
    let _ ← part first
    asLoop (rounds (fun last => do
      if (← part test) = 0 then return ⟨false, last⟩
      else
        let builtin := (← shell).builtin
        let r ← inRound do
          modifyShell fun p => { p with builtin := none }
          m (.statement { tested := flags.tested } body)
          return ⟨true, ← status⟩
        modifyShell fun p => { p with builtin }
        if r.goesOn then let _ ← part next
        return r) maxRounds 0)

/-! ## Menus -/

def screenWidth (p : Process) : Nat :=
  match (p.value? "COLUMNS".toList).bind fun o => (String.ofList o).toNat? with
  | some (n + 1) => n + 1
  | _ => 80

/-- Blanks and tabs that lead from one column to another. -/
def advanceTo : (steps : Nat) → (column target : Nat) → Octets
  | 0, _, _ => []
  | n + 1, column, target =>
    if target ≤ column then []
    else if column / 8 < target / 8 then '\t' :: advanceTo n (column / 8 * 8 + 8) target
    else ' ' :: advanceTo n (column + 1) target

/-- The items of a menu in columns, with their numbers. -/
def menuText (width : Nat) (items : List Octets) : Octets :=
  let count := items.length
  let digits (n : Nat) : Nat := (Text.ofNat n).length
  let widest := ((items.map (·.length)).foldl max 0) + digits count + 4
  let columns := max 1 (width / widest)
  let rows := count / columns + if count % columns = 0 then 0 else 1
  let columns := count / max rows 1 + if count % max rows 1 = 0 then 0 else 1
  let rows := if rows = 1 then columns else rows
  let cell (row column : Nat) : Octets :=
    match items[column * rows + row]? with
    | none => []
    | some o =>
      let n := Text.ofNat (column * rows + row + 1)
      let size := if column = 0 then digits rows else digits count
      let text := List.replicate (size - n.length) ' ' ++ n ++ ") ".toList ++ o
      let start := column * widest
      if (column + 1) * rows + row < count then text ++ advanceTo widest (start + text.length) (start + widest)
      else text
  (List.range rows).flatMap fun row => (List.range (max columns 1)).flatMap (cell row) ++ ['\n']

/-- Ask for one of the items until something is answered; `none` at the end of the input. -/
def ask (items : List Octets) : (tries : Nat) → (shows : Bool) → ShellM (Option Octets)
  | 0, _ => return none
  | n + 1, shows => do
    let p ← shell
    if shows then say 2 (menuText (screenWidth p) items)
    say 2 ((p.value? "PS3".toList).getD "#? ".toList)
    match ← Builtin.read m [] with
    | 0 =>
      let answer := ((← shell).value? "REPLY".toList).getD []
      if answer = [] then ask items n true
      else
        let k := (Arithmetic.number? answer).getD 0
        return some (if 0 < k then items.getD (k.toNat - 1) [] else [])
    | _ =>
      say 1 ['\n']
      return none

def runMenu (flags : Flags) (line : Nat) (name : Text) (words : List Word) (body : Statement) : ShellM Unit := do
  let fields ← words.flatMapM (expandFields inWords)
  modifyShell fun p => { p with line }
  traceRich ("select ".toList ++ name ++ " in ".toList ++ writtenWords words)
  if fields = [] then setStatus 0
  else
    asLoop (rounds (fun last => do
      let p ← shell
      let shows := last == 0x100 || p.value? "REPLY".toList == some []
      match ← ask m fields maxRounds shows with
      | none => return ⟨false, 1⟩
      | some o =>
        setLoopVar name o
        m (.statement { tested := flags.tested } body)
        return ⟨true, ← status⟩) maxRounds 0x100)

/-! ## Lists and choices -/

/-- Run statements one after another. Without any, as on a line that is blank, the status stays what it was. -/
def runBlock (flags : Flags) : List Statement → ShellM Unit
  | [] => return
  | [s] => m (.statement flags s)
  | s :: rest => do
    m (.statement { tested := flags.tested } s)
    runBlock flags rest

def runChoice (flags : Flags) (otherwise : Option Statement) : List (Statement × Statement) →
    ShellM Unit
  | [] =>
    match otherwise with
    | some s => m (.statement flags s)
    | none => setStatus 0
  | (test, body) :: rest => do
    m (.statement { tested := true } test)
    if (← status) = 0 then m (.statement flags body) else runChoice flags otherwise rest

/-- Whether a pattern matches a text; letters count as one in either case if that is the habit. -/
def matchesPattern (w : List Marked) (o : Octets) : ShellM Bool := do
  let s ← get
  let extended := s.shell.dialect == .rich
  let inOne (c : Char) : Char := if hasHabit s "nocasematch" then c.toLower else c
  let items := Pattern.itemsWith extended extended (w.map fun c => (inOne c.1, c.2))
  return Pattern.isMatch items (o.map inOne)

/-- Whether one of the patterns of a case matches. -/
def matchesAny (o : Octets) : List Word → ShellM Bool
  | [] => return false
  | w :: rest => do
    let s ← get
    let pattern ← expandPattern inWords w
    let inOne (c : Char) : Char := if hasHabit s "nocasematch" then c.toLower else c
    let items := Pattern.itemsWith (s.shell.dialect == .rich) (hasHabit s "extglob")
      (pattern.map fun c => (inOne c.1, c.2))
    if Pattern.isMatch items (o.map inOne) then return true else matchesAny o rest

/-- Run the first case that matches; `taken` is a case that is run whatever its patterns are. -/
def runCases (flags : Flags) (o : Octets) : (taken : Bool) → List (List Word × Statement × CaseEnd) → ShellM Unit
  | _, [] => return
  | taken, (patterns, body, last) :: rest => do
    if ← (if taken then pure true else matchesAny o patterns) then
      match last with
      | .stop => m (.statement flags body)
      | .goOn =>
        m (.statement { tested := flags.tested } body)
        runCases flags o true rest
      | .tryNext =>
        m (.statement { tested := flags.tested } body)
        runCases flags o false rest
    else runCases flags o false rest

/-! ## Processes -/

/-- Carry out redirections, run, and give the descriptors back. -/
def withRedirected (redirections : List Redirection) (body : ShellM Unit) : ShellM Unit := do
  let before ← shell
  let ready ← redirections.mapM (prepare inWords)
  let fds := ready.flatMap Ready.changes
  keep fds
  ensuring
    (do if ← redirectAll ready then body else setStatus (if before.dialect = .rich then 1 else 2))
    (giveBack before fds)

/-- Carry out redirections that last, and run. -/
def runRedirected (flags : Flags) (redirections : List Ready) (body : Statement) : ShellM Unit := do
  if ← redirectAll redirections then m (.statement flags body)
  else setStatus (if ← isRich then 1 else 2)

/-- Run in a subshell, or right here if nothing comes after it. -/
def runSubshell (flags : Flags) (body : Statement) (redirections : List Redirection) : ShellM Unit := do
  let before ← shell
  let ready ← redirections.mapM (prepare inWords)
  let inside : Task := .redirected ready { flags with exits := true } body
  if flags.exits && !hasTraps (← shell) then
    modifyShell fun p => { p with level := p.level + 1 }
    m inside
  else
    let ending ← inSubshell (fun p => { p with level := p.level + 1 }) inside
    reportEnding ending
    setStatus ending.status
  closePassing before

/-- Start a background process, which reads nothing. -/
def startBackground (body : Statement) : ShellM Unit := do
  noteEndings
  let (slot, _) := freeSlot (← get).jobs
  let number ← newProcess
  let null ← add ⟨.device .null, 0, false, true, false⟩
  spawn (((← shell).inner number).connect 0 null) (.statement { exits := true } body)
  let text := if (← isRich) then Written.statement body else []
  modify fun s => { s with jobs := s.jobs ++ [{ slot, number, text }] }
  modifyShell fun p => { p with background := some number }
  setStatus 0

/-- The descriptors that a shell holds the ends of its companion by. -/
def companionReads : Nat := 63

def companionWrites : Nat := 60

/-- Start a companion: a process that reads what the shell writes to one descriptor and writes what it reads from
another. A variable holds both. -/
def startCompanion (name : Text) (body : Statement) : ShellM Unit := do
  noteEndings
  let (slot, _) := freeSlot (← get).jobs
  let number ← newProcess
  let (_, reading, answering) ← openStream
  let (_, asked, writing) ← openStream
  spawn ((((← shell).inner number).connect 0 asked).connect 1 answering) (.statement { exits := true } body)
  let fd := (← shell).highestFree companionReads
  modifyShell fun p => p.connect fd reading
  let fd' := (← shell).highestFree (min companionWrites (fd - 1))
  modifyShell fun p =>
    { p.connect fd' writing with background := some number, ownDescriptors := fd :: fd' :: p.ownDescriptors }
  modify fun s => { s with jobs := s.jobs ++ [{ slot, number }] }
  setContent name (listOf [Text.ofNat fd, Text.ofNat fd'])
  setVar (name ++ "_PID".toList) (Text.ofNat number)
  setStatus 0

/-- Start the stages of a pipeline; gives their numbers. With `keepsLast`, the last one is not started, and
what it would read from is given as well. -/
def startStages (flags : Flags) (keepsLast : Bool) : (input : Option Nat) → List Statement →
    ShellM (List Nat × Option Nat)
  | input, [] => return ([], input)
  | input, stage :: rest => do
    if rest = [] ∧ keepsLast then return ([], input)
    else
      let number ← newProcess
      let p ← shell
      let p := match stage with
        | .simple _ _ _ _ => p.copy number
        | _ => p.inner number
      let p := match input with
        | some n => p.connect 0 n
        | none => p
      let task : Task := .statement { flags with exits := true } stage
      if rest = [] then
        spawn p task
        return ([number], none)
      else
        let (_, next, writing) ← openStream
        spawn (p.connect 1 writing) task
        let (numbers, left) ← startStages flags keepsLast (some next) rest
        return (number :: numbers, left)

/-- The status of a pipeline: that of its last stage, or with the option, of the last that failed. -/
def statusOf (allCount : Bool) (endings : List Ending) : Nat :=
  let codes := endings.map Ending.status
  let last := codes.getLastD 0
  if allCount then (codes.reverse.find? (· != 0)).getD 0 else last

/-- Note how the stages of a pipeline ended. -/
def noteStages (codes : List Nat) : ShellM Unit := do
  if ← isRich then
    putVar "PIPESTATUS".toList
      { content := .list ((List.range codes.length).zip (codes.map Text.ofNat)) }

/-- The line that a pipeline is said to be in: that of its last stage if that is simple. -/
def pipelineLine (line : Nat) (stages : List Statement) : Nat :=
  match stages.getLast? with
  | some (.simple n _ _ _) => if n = 0 then line else n
  | _ => line

/-- Run the last stage of a pipeline in the shell itself. -/
def runLastStage (flags : Flags) (input : Option Nat) (stages : List Statement) : ShellM Nat := do
  match stages.getLast?, input with
  | some stage, some n =>
    let before ← shell
    keep [0]
    modifyShell fun p => p.connect 0 n
    ensuring (m (.statement { tested := true, exits := false && flags.exits } stage)) (giveBack before [0])
    status
  | _, _ => return 0

/-- Run the stages of a pipeline side by side. -/
def runPipeline (flags : Flags) (line : Nat) (stages : List Statement) : ShellM Unit := do
  let s ← get
  let keepsLast := hasHabit s "lastpipe"
  let before := s.shell
  let (numbers, input) ← startStages flags keepsLast none stages
  let last ← if keepsLast then do pure [Ending.code (← runLastStage m flags input stages)] else pure []
  let endings ← numbers.mapM fun number => do
    let ending ← awaitEnding number
    reportEnding ending
    return ending
  let endings := endings ++ last
  if before.dialect = .rich then
    modifyShell fun p => { p with line := if line = 0 then p.line else pipelineLine line stages }
  setStatus (statusOf ((← shell).options.contains Switch.pipefail) endings)
  noteStages (endings.map Ending.status)
  closePassing before

/-! ## Time -/

/-- A time in microseconds in seconds with so many places, with minutes apart if that is asked for. -/
def spanText (places : Nat) (withMinutes : Bool) (span : Nat) : Octets :=
  let places := min places 3
  let units := span / Nat.pow 10 (6 - places)
  let perSecond := Nat.pow 10 places
  let seconds := units / perSecond
  let part := Text.ofNat (units % perSecond)
  let behind := if places = 0 then [] else '.' :: List.replicate (places - part.length) '0' ++ part
  if withMinutes then Text.ofNat (seconds / 60) ++ 'm' :: Text.ofNat (seconds % 60) ++ behind ++ ['s']
  else Text.ofNat seconds ++ behind

/-- A form in which marks stand for times; all but the time that has passed are nothing. -/
def timeText (span : Nat) : (steps : Nat) → Octets → Octets
  | 0, _ => []
  | _, [] => []
  | n + 1, '%' :: r =>
    let digits := (r.takeWhile Char.isDigit).take 1
    let places := if digits = [] then 3 else Arithmetic.valueIn 10 digits
    let behind := r.drop digits.length
    let long := behind.head? = some 'l'
    match (if long then behind.drop 1 else behind) with
    | 'R' :: r => spanText places long span ++ timeText span n r
    | 'U' :: r => spanText places long 0 ++ timeText span n r
    | 'S' :: r => spanText places long 0 ++ timeText span n r
    | 'P' :: r => "0.00".toList ++ timeText span n r
    | '%' :: r => '%' :: timeText span n r
    | r => r
  | n + 1, c :: r => c :: timeText span n r

def usualTimeForm : Octets := "\nreal\t%3lR\nuser\t%3lU\nsys\t%3lS".toList

def briefTimeForm : Octets := "real %2R\nuser %2U\nsys %2S".toList

/-- Run a command and say how long it took. -/
def runTimed (flags : Flags) (briefly : Bool) (s : Statement) : ShellM Unit := do
  let start := (← world).clock
  m (.statement { flags with exits := false } s)
  let span := (← world).clock - start
  let p ← shell
  let form := if briefly then briefTimeForm else (p.value? "TIMEFORMAT".toList).getD usualTimeForm
  if form ≠ [] then say 2 (timeText span (form.length + 1) form ++ ['\n'])

/-! ## Conditions -/

/-- The characters of a pattern that may not act as marks, with backslashes in front. -/
def regexText (w : List Marked) : Octets :=
  w.flatMap fun (c, active) =>
    if active || c.isAlphanum || c == ' ' || c == '\n' || c == '_' || c > '~' then [c] else ['\\', c]

/-- Match against a regular expression, and note the groups. -/
def matchRegex (o : Octets) (pattern : Octets) : ShellM Bool := do
  let ignoresCase := hasHabit (← get) "nocasematch"
  match Regex.ofText? true ignoresCase pattern with
  | .error _ =>
    setStatus 2
    throw .failed
  | .ok r =>
    match r.search o with
    | none =>
      putVar "BASH_REMATCH".toList { content := .list [] }
      return false
    | some found =>
      let whole := (o.drop found.start).take found.length
      let groups := (List.range r.groupCount).map fun i => (found.groupText (i + 1)).getD []
      putVar "BASH_REMATCH".toList { content := listOf (whole :: groups) }
      return true

/-- How an operand is shown. -/
def tracedOperand (o : Octets) : Octets := if o = [] then "''".toList else o

def traceTest (denied : Bool) (text : Octets) : ShellM Unit :=
  traceRich ("[[ ".toList ++ (if denied then "! ".toList else []) ++ text ++ " ]]".toList)

/-- A pattern as it is shown, with backslashes before what was quoted. -/
def tracedPattern (w : List Marked) : Octets :=
  w.flatMap fun (c, active) => if active then [c] else ['\\', c]

def binaryHolds (denied : Bool) (left : Octets) (op : Text) (right : Word) : ShellM Bool := do
  let shown (o : Octets) : ShellM Unit := traceTest denied (tracedOperand left ++ ' ' :: op ++ ' ' :: o)
  let numbers (f : Int → Int → Bool) : ShellM Bool := do
    let o ← expandText inWords right
    shown (tracedOperand o)
    return f (← Arithmetic.value left) (← Arithmetic.value o)
  let pattern : ShellM Bool := do
    let w ← expandPattern inWords right
    shown (if w = [] then "''".toList else tracedPattern w)
    matchesPattern w left
  match String.ofList op with
  | "=" => pattern
  | "==" => pattern
  | "!=" => return !(← pattern)
  | "=~" =>
    let o := regexText (← expandPattern inWords right)
    shown (tracedOperand o)
    matchRegex left o
  | "-eq" => numbers fun a b => a == b
  | "-ne" => numbers fun a b => a != b
  | "-lt" => numbers fun a b => a < b
  | "-le" => numbers fun a b => a ≤ b
  | "-gt" => numbers fun a b => b < a
  | "-ge" => numbers fun a b => b ≤ a
  | name =>
    let o ← expandText inWords right
    shown (tracedOperand o)
    return (Condition.compare (← get) name left o).toOption.getD false

/-- Whether a condition holds, or if it is denied does not; what is tested is shown with that. -/
def holds : (denied : Bool) → Shell.Condition → ShellM Bool
  | denied, .unary op w => do
    let o ← expandText inWords w
    traceTest denied (op ++ ' ' :: tracedOperand o)
    return (← Builtin.unaryHolds op o) != denied
  | denied, .binary left op right => do
    return (← binaryHolds denied (← expandText inWords left) op right) != denied
  | denied, .isNot c => holds (!denied) c
  | denied, .both c d => do
    if denied then if ← holds true c then return true else holds true d
    else if ← holds false c then holds false d
    else return false
  | denied, .either c d => do
    if denied then if ← holds true c then holds true d else return false
    else if ← holds false c then return true
    else holds false d

/-! ## Statements -/

def define (name : Text) (body : Statement) : ShellM Unit := do
  let p ← shell
  let source := (p.callSources.head?).getD "environment".toList
  modifyShell fun p =>
    { p with
      functions := (name, body) :: p.functions.filter (·.1 != name)
      sources := if p.dialect = .rich then (name, source) :: p.sources.filter (·.1 != name) else []
      exportedFunctions := p.exportedFunctions.map fun f =>
        if f.1 = name then (name, Written.exported body) else f }
  setStatus 0

def isAnswered (answer : ShellM Bool) : ShellM Unit := do setStatus (if ← answer then 0 else 1)

/-- Whether a command that fails may end the shell. -/
def endsOnFailure : Statement → Bool
  | .simple _ _ _ _ => true
  | .pipeline _ _ => true
  | .subshell _ _ => true
  | .redirected _ (.subshell _ _) _ => true
  | .sum _ _ => true
  | .condition _ _ => true
  | _ => false

/-- Note the status of a command that is as good as a pipeline of one stage. -/
def noteOwn (f : ShellM Unit) : ShellM Unit := do
  f
  if ← isRich then noteStages [← status]

/-- Be in a line. -/
def inLine (line : Nat) (f : ShellM Unit) : ShellM Unit := do
  modifyShell fun p => { p with line }
  f

def runInner (flags : Flags) : Statement → ShellM Unit
  | .simple line assignments words redirections =>
    noteOwn (runSimple m flags line assignments words redirections)
  | .pipeline line stages => runPipeline m flags line stages
  | .background _ body => startBackground body
  | .opposite s => do
    m (.statement { tested := true } s)
    setStatus (if (← status) = 0 then 1 else 0)
  | .both first second => do
    m (.statement { tested := true } first)
    if (← status) = 0 then m (.statement flags second)
  | .either first second => do
    m (.statement { tested := true } first)
    if (← status) ≠ 0 then m (.statement flags second)
  | .block statements => runBlock m flags statements
  | .group s => m (.statement flags s)
  | .choice branches otherwise => runChoice m flags otherwise branches
  | .loop expected test body => testedLoop m flags expected test body
  | .each line name words body => inLine line (runEach m flags line name words body)
  | .select line word cases => inLine line do
    traceRich ("case ".toList ++ Written.word word ++ " in".toList)
    if ← isRich then announce m (.select line word [])
    let o ← expandText inWords word
    setStatus 0
    runCases m flags o false cases
  | .menu line name words body => inLine line (runMenu m flags line name words body)
  | .subshell line body => inLine line (noteOwn (runSubshell m flags body []))
  | .redirected line (.subshell _ body) redirections =>
    inLine line (noteOwn (runSubshell m flags body redirections))
  | .redirected line body redirections => inLine line do
    let before ← shell
    withRedirected redirections (m (.statement { tested := flags.tested } body))
    closePassing before
  | .define _ name body => define name body
  | .sum line expression => inLine line (noteOwn do
    announce m (.sum line expression)
    underSigns "((" (isAnswered do
      let t ← expandText inWords expression
      traceRich ("(( ".toList ++ t ++ " ))".toList)
      return (← Arithmetic.value t) != 0))
  | .condition line c => inLine line (noteOwn do
    announce m (.condition line c)
    underSigns "[[" (isAnswered (holds false c)))
  | .count line first test next body => inLine line (noteOwn (runCount m flags line first test next body))
  | .timed briefly s => runTimed m flags briefly s
  | .companion line name body => inLine line (startCompanion name body)

/-- Carry out a statement, see to signals, and end the shell if a failure has to. With the option `n`
nothing is done. -/
def runStatement (flags : Flags) (s : Statement) : ShellM Unit := do
  if ← hasOption 'n' then return
  runInner m flags s
  takeStep
  seeToSignals m maxSignals
  if endsOnFailure s && !flags.tested then
    if (← status) != 0 then
      if ← isRich then runEvent m failure
      if ← hasOption 'e' then throw .exit

end

end KarelBuild.Shell
