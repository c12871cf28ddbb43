import KarelBuild.Shell.Builtin.Control

/-!
# Programs

Finding the program that a name stands for, and becoming it. A shell looks through the directories
itself and complains of what it cannot run; a file in no known form is a script.
-/

namespace KarelBuild.Shell

open ShellM

/-- The path of a program, by its own path or by the first directory that has it. -/
def pathOf (s : State) (dirs : List Path) (name : Text) : Except OsError Path :=
  if name.contains '/' then .ok name
  else
    let paths := dirs.map fun d => Launch.pathIn d name
    match paths.find? (s.world.tree.isExecutable s.shell.workDir) with
    | some p => .ok p
    | none =>
      if paths.any fun p => s.world.tree.pathExists s.shell.workDir p then .error .permission
      else .error .noEntry

/-- The program behind a path; a file in no known form is given to the shell. -/
def launchOf (s : State) (path : Path) (name : Octets) (args : List Octets) : Except OsError Launch :=
  let settings := s.shell.environment.map fun (n, o) => n ++ '=' :: o
  match Launch.limited (name :: args ++ settings)
    (Launch.load s.world.tree s.shell.workDir Launch.maxInterpreters path name args) with
  | .error .notExecutable =>
    match s.world.tree.read s.shell.workDir path with
    | .ok contents =>
      if s.shell.dialect = .rich then
        .ok ⟨"bash".toList, name, Octets.ofText path :: args⟩
      else if contents.contains 0 then .ok ⟨"sh".toList, "/bin/sh".toList, Octets.ofText path :: args⟩
      else .ok ⟨"sh".toList, "/bin/sh".toList, Octets.ofText path :: args⟩
    | .error e => .error e
  | r => r

def failureCode : OsError → Nat
  | .noEntry => 127
  | .notDirectory => 127
  | .nameTooLong => 127
  | .tooManyLinks => 127
  | _ => 126

def cannotRun (e : OsError) : Octets :=
  match e with
  | .noEntry => "not found".toList
  | .notDirectory => "not found".toList
  | e => e.wording.toList

/-- Whether a file says that a missing program interprets it. -/
def missingInterpreter? (s : State) (path : Path) : Option Octets :=
  match s.world.tree.read s.shell.workDir path with
  | .ok contents =>
    match Image.ofBytes? contents with
    | some (.script interpreter _) =>
      if s.world.tree.pathExists s.shell.workDir interpreter then none
      else some (Octets.ofText interpreter)
    | _ => none
  | .error _ => none

/-- What the rich dialect says of a program that it cannot run, and the exit code. -/
def richFailure (s : State) (name : Octets) (path : Path) (e : OsError) : Octets × Nat :=
  let isDir := s.world.tree.isDir s.shell.workDir path
  match e, missingInterpreter? s path with
  | .noEntry, some i =>
    (name ++ ": ".toList ++ i ++ ": bad interpreter: No such file or directory".toList, 126)
  | .permission, _ =>
    (name ++ ": ".toList ++ (if isDir then "Is a directory" else "Permission denied").toList, 126)
  | e, _ => (name ++ ": ".toList ++ e.wording.toList, failureCode e)

/-- Complain of a program that cannot be run, and give the exit code for it. -/
def complainOfProgram (name : Octets) (path : Path) (e : OsError) : ShellM Nat := do
  if ← isRich then
    let (message, code) := richFailure (← get) name path e
    complain message
    return code
  else
    complain (name ++ ": ".toList ++ cannotRun e)
    return failureCode e

/-- The directories that a name is looked for in. -/
def dirsFor (standard : Bool) : ShellM (List Path) := do
  if standard then return Launch.defaultDirs else return Builtin.searchDirs (← shell)

/-- A program that a name stands for, or the exit code for not finding it. -/
def findProgram (standard : Bool) (name : Octets) (args : List Octets) : ShellM (Launch ⊕ Nat) := do
  let s ← get
  match pathOf s (← dirsFor standard) (Octets.toText name) with
  | .error e =>
    if s.shell.dialect = .rich then
      if e = .noEntry then
        complain (name ++ ": command not found".toList)
        return .inr 127
      else return .inr (← complainOfProgram name [] e)
    else
      complain (name ++ ": ".toList ++ cannotRun e)
      return .inr 127
  | .ok path =>
    if !name.contains '/' then Builtin.noteFound true name
    if s.shell.dialect = .rich then
      putVar ['_'] { content := .text (Octets.ofText path), exported := true }
    match launchOf (← get) path name args with
    | .ok l => return .inl l
    | .error e => return .inr (← complainOfProgram name path e)

/-- How long starting a program takes, in microseconds. -/
def startSpan : Nat := 500

/-- Start a program in a process of its own, and wait for it. -/
def startProgram (l : Launch) : ShellM Unit := do
  let number ← newProcess
  modifyWorld fun w => { w with clock := w.clock + startSpan }
  let ending ← runProcess ((← shell).forProgram number) (.program l)
  reportEnding ending
  setStatus ending.status

/-- Become a program. -/
def becomeProgram (m : Machine) (l : Launch) : ShellM Unit := do
  modifyShell fun p => { p.forProgram p.number with root := p.root, parent := p.parent }
  m (.program l)
  throw .exit

end KarelBuild.Shell
