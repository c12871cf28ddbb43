import KarelBuild.Host.Standard
import KarelBuild.Shell.Compound

/-!
# Starting a shell

A shell takes options, and then a text of commands, a script or its standard input. Its variables are
those of its environment whose names are names, and some that every shell has.
-/

namespace KarelBuild.Shell

open ShellM

namespace Startup

/-! ## The process -/

/-- The names that lead to the working directory: those in the environment if they do so. -/
def startDirectory (s : State) : Octets :=
  let physical := Octets.ofText (Path.ofNames s.shell.workDir.place)
  match s.shell.value? "PWD".toList with
  | some o =>
    match s.world.tree.stat s.shell.workDir (Octets.toText o) with
    | .ok (place, .dir) =>
      if o.head? = some '/' ∧ place = s.shell.workDir.place then o else physical
    | _ => physical
  | none => physical

def textVar (o : Octets) : Variable := { content := .text o }

/-- Variables that every shell has. -/
def usualVars (p : Process) : List (Text × Variable) :=
  [("IFS", textVar " \t\n".toList), ("OPTIND", textVar ['1']), ("PS1", textVar "# ".toList),
    ("PS2", textVar "> ".toList), ("PS4", textVar "+ ".toList),
    ("PATH", textVar Host.standardPath), ("PPID", textVar (Text.ofNat p.parent))].map
      fun ((name : String), v) => (name.toList, v)

/-- The rich dialect has a version of five numbers and words. -/
def versionParts : List Octets := ["5", "2", "15", "1", "release", "x86_64-pc-linux-gnu"].map String.toList

def numberVar (n : Nat) : Variable := { content := .text (Text.ofNat n), isNumber := true, readOnly := true }

/-- Variables that every shell of the rich dialect has, if they are not given; those in the second list are
what they are here even so. -/
def richVars (p : Process) : List (Text × Variable) × List (Text × Variable) :=
  let texts (vs : List (String × String)) : List (Text × Variable) :=
    vs.map fun (name, o) => (name.toList, textVar o.toList)
  let level := ((p.value? "SHLVL".toList).bind Arithmetic.number?).getD 0
  (texts [("HOSTNAME", "localhost"), ("OSTYPE", "linux-gnu"), ("MACHTYPE", "x86_64-pc-linux-gnu"),
      ("HOSTTYPE", "x86_64"), ("SHELL", "/bin/bash"), ("TERM", "dumb"), ("PS4", "+ ")] ++
    [("PATH".toList, textVar Host.standardPath), ("OLDPWD".toList, { exported := true })],
    texts [("BASH", "/usr/bin/bash"), ("BASH_VERSION", "5.2.15(1)-release"), ("IFS", " \t\n"), ("OPTIND", "1"),
      ("OPTERR", "1")] ++
    [("BASH_VERSINFO".toList, { content := listOf versionParts, readOnly := true }),
      ("EUID".toList, numberVar 0), ("UID".toList, numberVar 0), ("PPID".toList, numberVar p.parent),
      ("SHLVL".toList, { content := .text (Text.ofInt (max 1 (level + 1))), exported := true })])

/-- Functions that a process was given, with their text behind their names. -/
def givenFunctions (p : Process) : List (Text × Octets) :=
  p.vars.filterMap fun (name, v) =>
    if "BASH_FUNC_".toList.isPrefixOf name ∧ name.reverse.take 2 = ['%', '%'] then
      (v.content.text?).map ((name.drop 10).dropLast.dropLast, ·)
    else none

/-- Take over a function from its text. -/
def importFunction (name : Text) (o : Octets) : ShellM Unit := do
  match nextCommand? { rest := name ++ ' ' :: o ++ ['\n'], line := 1, dialect := .rich, aliases := [] } with
  | .ok (some (.define _ _ body), _) =>
    modifyShell fun p =>
      { p with functions := (name, body) :: p.functions, exportedFunctions := p.exportedFunctions ++ [(name, o)] }
  | _ => return

/-- Make the process a shell of the rich dialect. -/
def becomeRich (name : Octets) : ShellM Unit := do
  let s ← get
  let functions := givenFunctions s.shell
  let given := s.shell.vars.filter fun v => isName v.1
  let (usual, fixed) := richVars s.shell
  let isAbsent (vs : List (Text × Variable)) (v : Text × Variable) : Bool := vs.all fun u => u.1 != v.1
  let others := given.filter (isAbsent fixed)
  let dir := startDirectory s
  modifyShell fun p =>
    { p with
      isShell := true, dialect := .rich, root := p.number, name, logicalDir := dir, line := 0, lastArg := name
      vars := others ++ fixed ++ usual.filter (isAbsent given)
      habits := Switch.usualHabits, since := s.world.clock / 1000000, seed := p.number }
  functions.forM fun (name, o) => importFunction name o
  setVar "PWD".toList dir
  exportVar "PWD".toList

/-- Make the process a shell of the plain dialect. -/
def becomePlain (name : Octets) : ShellM Unit := do
  let s ← get
  let d := Dialect.plain
  let given := s.shell.vars.filter fun v => isName v.1
  let usual := (usualVars s.shell).map fun (n, v) =>
    (n, if n = "IFS".toList ∨ n = "PPID".toList then v else (given.lookup n).getD v)
  let others := given.filter fun v => usual.all fun u => u.1 != v.1
  let dir := startDirectory s
  modifyShell fun p =>
    { p with
      isShell := true, dialect := d, root := p.number, name, vars := usual ++ others, logicalDir := dir, line := 0
      lastArg := name }
  setVar "PWD".toList dir
  exportVar "PWD".toList

/-! ## Options -/

/-- What is to be run. -/
inductive Source where
  | text
  | input

structure Options where
  source : Source := .input
  args : List Octets

def refuseOption {α : Type} (message : Octets) : ShellM α := do
  let p ← shell
  say 2 (p.name ++ ": ".toList ++ (if p.dialect = .rich then [] else "0: ".toList) ++ message ++ ['\n'])
  exit 2

/-- An option by its letter; those that only a shell itself takes are passed over. -/
def letter (on : Bool) (c : Char) : ShellM Unit := do
  let rich ← isRich
  match Switch.ofLetter? (← shell).dialect c with
  | some o => Builtin.setSwitch on o
  | none =>
    if rich ∧ c = 's' then setOption on c
    else if c = 'l' ∨ (rich ∧ "rDi".toList.contains c) then return
    else if rich then refuseOption ((if on then '-' else '+') :: c :: ": invalid option".toList)
    else refuseOption ("Illegal option -".toList ++ [c])

def named (on : Bool) (name : Octets) : ShellM Unit := do
  match Switch.named? (← shell).dialect name with
  | some o => Builtin.setSwitch on o
  | none =>
    if ← isRich then refuseOption (name ++ ": invalid option name".toList)
    else refuseOption ("Illegal option -o ".toList ++ name)

/-- Turn a habit on or off by its name. -/
def habit (on : Bool) (name : Octets) : ShellM Unit := do
  if Switch.habits.any (·.1.toList == name) then
    modifyShell fun p =>
      let others := p.habits.filter (· != name)
      { p with habits := if on then name :: others else others }
  else refuseOption (name ++ ": invalid shell option name".toList)

def letters (on : Bool) : List Char → (source : Source) → List Octets → ShellM Options
  | [], source, args => return ⟨source, args⟩
  | c :: cs, source, args => do
    if c = 'c' then letters on cs .text args
    else if c = 'O' ∧ (← isRich) then
      match args with
      | [] => letters on cs source []
      | name :: args =>
        habit on name
        letters on cs source args
    else if c = 'o' then
      match args with
      | [] =>
        let _ ← Builtin.showOptions (!on)
        letters on cs source []
      | name :: args =>
        named on name
        letters on cs source args
    else
      letter on c
      letters on cs source args

/-- Options whose names are words, of the rich dialect. -/
def isLongOption (a : Octets) : Bool :=
  ["--norc", "--noprofile", "--posix", "--login", "--noediting", "--restricted", "--verbose"].any
    (a == ·.toList)

def options : (steps : Nat) → Source → List Octets → ShellM Options
  | 0, source, args => return ⟨source, args⟩
  | _, source, [] => return ⟨source, []⟩
  | n + 1, source, a :: rest => do
    if (← isRich) && isLongOption a then options n source rest
    else match a with
      | ['-'] => return ⟨source, rest⟩
      | ['-', '-'] => return ⟨source, rest⟩
      | '-' :: cs =>
        let o ← letters true cs source rest
        options n o.source o.args
      | '+' :: cs =>
        let o ← letters false cs source rest
        options n o.source o.args
      | _ => return ⟨source, a :: rest⟩

/-! ## Running -/

section

variable (m : Machine)

def setArguments (name : Octets) (args : List Octets) : ShellM Unit :=
  modifyShell fun p => { p with name, args, line := 1 }

/-- Note where the commands come from. -/
def setSource (source : Option Octets) (tag : String) : ShellM Unit :=
  modifyShell fun p => if p.dialect = .rich then { p with source, textTag := tag.toList } else p

/-- Read commands without running them. -/
def readAll : (steps : Nat) → List Char → Nat → ShellM Unit
  | 0, _, _ => return
  | n + 1, rest, line => do
    match ← readCommand rest line with
    | some (_, rest, line) => readAll n rest line
    | none => return

/-- Run a text that was read from somewhere; with the option `n` it is only read. -/
def runScript (text : Octets) : ShellM Unit := do
  modifyShell fun p => { p with line := 1 }
  if (← hasOption 'v') && !(← isRich) then say 2 text
  if ← hasOption 'n' then readAll (text.length + 1) text 1 else evalText m {} text

def runInput : ShellM Unit := do
  match (← shell).opened? 0 with
  | none => return
  | some n =>
    match ← takeAll n with
    | .ok (.text o) => runScript m o
    | _ => return

def refuseScript (path : Octets) (e : OsError) : ShellM Unit := do
  if ← isRich then
    let p ← shell
    if e = .isDirectory then say 2 (path ++ ": ".toList ++ path ++ ": Is a directory\n".toList)
    else say 2 (p.name ++ ": ".toList ++ path ++ ": ".toList ++ e.wording.toList ++ ['\n'])
    exit (if e = .noEntry ∨ e = .notDirectory then 127 else 126)
  else refuseOption (cannotOpen path e)

def runFile (path : Octets) (args : List Octets) : ShellM Unit := do
  match ← openPath path .reads with
  | .error e => refuseScript path e
  | .ok n =>
    match ← takeAll n with
    | .ok (.text o) =>
      setArguments path args
      setSource (some path) ""
      runScript m o
    | .ok (.endless _) => return
    | .error e => if ← isRich then refuseScript path e else return

/-- Run what the arguments say. -/
def run (args : List Octets) : ShellM Unit := do
  let o ← options (args.length + 1) .input args
  match o.source, o.args with
  | .text, [] =>
    refuseOption (if ← isRich then "-c: option requires an argument".toList
      else "-c requires an argument".toList)
  | .text, text :: rest =>
    setArguments (rest.headD (← shell).name) (rest.drop 1)
    setSource none "-c"
    if ← isRich then setOption true 'c'
    if ← hasOption 'n' then readAll (text.length + 1) text 1 else evalText m { exits := true } text
  | .input, [] =>
    setOption true 's'
    runInput m
  | .input, path :: rest =>
    if ← hasOption 's' then
      setArguments (← shell).name o.args
      runInput m
    else runFile m path rest

end

/-- Run a program that is a shell, to its end. -/
def runShell (m : Machine) (d : Dialect) (l : Launch) : ShellM Unit := do
  match d with
  | .plain => becomePlain l.name
  | .rich => becomeRich l.name
  conclude m (run m l.args)

/-- The shells among the programs. -/
def dialect? (program : Text) : Option Dialect :=
  [("sh", Dialect.plain), ("dash", .plain), ("bash", .rich), ("rbash", .rich)].findSome?
    fun (name, d) => if name.toList = program then some d else none

end Startup

end KarelBuild.Shell
