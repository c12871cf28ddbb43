import KarelBuild.Shell.Builtin.Basic

/-!
# The working directory

`cd` keeps the names that led to a directory, so that `..` leads back along them; with `-P` links are
followed first.
-/

namespace KarelBuild.Shell.Builtin

open ShellM

/-- A directory's names after more names have been followed from it, `..` taking one away. -/
def followLogically : List Octets → List Octets → List Octets
  | names, [] => names
  | names, n :: rest =>
    if n = ['.'] then followLogically names rest
    else if n = ['.', '.'] then followLogically names.dropLast rest
    else followLogically (names ++ [n]) rest

def logicalPath (current dest : Octets) : Octets :=
  let start := if dest.head? = some '/' then [] else Path.pieces current
  '/' :: Text.join ['/'] (followLogically start (Path.pieces dest))

def physicalPath (p : Process) : Octets := Octets.ofText (Path.ofNames p.workDir.place)

/-- Note the new directory in the shell and in its variables. -/
def setDirectory (dir : WorkDir) (path : Octets) : ShellM Unit := do
  let before := (← shell).logicalDir
  modifyShell fun p => { p with workDir := dir, logicalDir := path }
  setVar "OLDPWD".toList before
  exportVar "OLDPWD".toList
  setVar "PWD".toList path
  exportVar "PWD".toList

/-- Enter a directory; tells what is wrong if that cannot be done. -/
def enter (physical : Bool) (dest : Octets) : ShellM (Except OsError Unit) := do
  let s ← get
  let path := if physical then dest else logicalPath s.shell.logicalDir dest
  match s.world.tree.stat s.shell.workDir (Octets.toText path) with
  | .ok (place, .dir) =>
    let dir : WorkDir := (WorkDir.mk place 0).after s.world.tree
    let name := if physical then Octets.ofText (Path.ofNames place) else path
    setDirectory dir name
    return .ok ()
  | .ok _ => return .error .notDirectory
  | .error e => return .error e

/-- The directories of the search path for directories, as long as one has the name. -/
def searched (dest : Octets) : ShellM (Option Octets) := do
  let s ← get
  match s.shell.value? "CDPATH".toList with
  | none => return none
  | some path =>
    let dirs := Text.split ':' path
    let candidates := dirs.map fun d => if d = [] then dest else d ++ '/' :: dest
    return candidates.find? fun c => s.world.tree.isDir s.shell.workDir (Octets.toText c)

def isDotted (dest : Octets) : Bool :=
  match Path.pieces dest with
  | n :: _ => n == ['.'] || n == ['.', '.']
  | [] => false

def cd : Builtin := fun _ args => do
  let rich ← isRich
  let (found, args) ← options "LPe" "" args
  let p ← shell
  let physical := match (found.map (·.1)).getLast? with
    | some c => c == 'P'
    | none => rich && p.options.contains Switch.physical
  let isBack := args.head? = some ['-']
  if rich ∧ args.length > 1 then refuse "too many arguments".toList
  else if rich ∧ args = [] ∧ (p.value? "HOME".toList).isNone then refuse "HOME not set".toList
  else if rich ∧ isBack ∧ (p.value? "OLDPWD".toList).isNone then refuse "OLDPWD not set".toList
  else
    let dest := match args with
      | [] => (p.value? "HOME".toList).getD []
      | a :: _ => if isBack then (p.value? "OLDPWD".toList).getD [] else a
    let dest := if dest = [] then ['.'] else dest
    let target ← if dest.head? = some '/' ∨ isDotted dest then pure none else searched dest
    match ← enter physical (target.getD dest) with
    | .error e =>
      if rich then refuse (dest ++ ": ".toList ++ e.wording.toList)
      else refuse ("can't cd to ".toList ++ dest)
    | .ok () =>
      if isBack || target.any (· != dest) then printLine (← shell).logicalDir else return 0

/-! ## The stack of directories -/

/-- A directory with the home directory written as a tilde. -/
def shortened (p : Process) (dir : Octets) : Octets :=
  match p.value? "HOME".toList with
  | some (c :: r) =>
    let home := c :: r
    if home = ['/'] then dir
    else if dir = home then ['~']
    else if (home ++ ['/']).isPrefixOf dir then '~' :: dir.drop home.length else dir
  | _ => dir

/-- The working directory and those to go back to. -/
def stackOf (p : Process) : List Octets := p.logicalDir :: p.dirStack

def showStack : ShellM Nat := do
  let p ← shell
  printLine (Text.join [' '] ((stackOf p).map (shortened p)))

/-- A place in the stack, counted from either end. -/
def stackIndex? (size : Nat) (a : Octets) : Option (Option Nat) :=
  match a with
  | sign :: r =>
    if (sign = '+' ∨ sign = '-') ∧ r ≠ [] ∧ r.all Char.isDigit then
      let n := Arithmetic.valueIn 10 r
      some (if size ≤ n then none else some (if sign = '+' then n else size - 1 - n))
    else none
  | [] => none

def outOfRange {α : Type} (a : Octets) : ShellM α := refuse (a ++ ": directory stack index out of range".toList)

/-- Have a list of directories for the stack, entering the first one. -/
def takeStack (dirs : List Octets) : ShellM Unit := do
  match dirs with
  | [] => return
  | dir :: rest =>
    match ← enter false dir with
    | .ok () => modifyShell fun p => { p with dirStack := rest }
    | .error e => refuse (dir ++ ": ".toList ++ e.wording.toList)

/-- Options of the stack's builtins: letters, and an argument that is none of them. -/
def stackOptions (known : List Char) : List Octets → ShellM (List Char × Option Octets)
  | [] => return ([], none)
  | a :: rest => do
    match a with
    | '-' :: c :: r =>
      if c.isDigit then return ([], some a)
      else if (c :: r).all known.contains then
        let (letters, arg) ← stackOptions known rest
        return (c :: r ++ letters, arg)
      else if a = ['-', '-'] then return ([], rest.head?)
      else misused (a ++ (if known.length > 1 then ": invalid option" else ": invalid number").toList)
    | _ => return ([], some a)

def pushd : Builtin := fun _ args => do
  let (letters, arg) ← stackOptions ['n'] args
  let p ← shell
  let stack := stackOf p
  match arg with
  | none =>
    match p.dirStack with
    | [] => refuse "no other directory".toList
    | dir :: rest => if letters = [] then takeStack (dir :: p.logicalDir :: rest)
  | some a =>
    match stackIndex? stack.length a with
    | some none => outOfRange a
    | some (some n) =>
      let turned := stack.drop n ++ stack.take n
      if letters = [] then takeStack turned else modifyShell fun p => { p with dirStack := turned.drop 1 }
    | none =>
      if letters ≠ [] then modifyShell fun p => { p with dirStack := a :: p.dirStack }
      else
        let dest := if a = ['-'] then (p.value? "OLDPWD".toList).getD [] else a
        match ← enter false dest with
        | .ok () => modifyShell fun q => { q with dirStack := stack }
        | .error e => refuse (a ++ ": ".toList ++ e.wording.toList)
  showStack

def popd : Builtin := fun _ args => do
  let (letters, arg) ← stackOptions ['n'] args
  let p ← shell
  let stack := stackOf p
  if p.dirStack = [] then refuse "directory stack empty".toList
  let index ← match arg with
    | none => pure (if letters = [] then 0 else 1)
    | some a =>
      match stackIndex? stack.length a with
      | some (some n) => pure n
      | some none => outOfRange a
      | none => misused (a ++ ": invalid argument".toList)
  let left := stack.eraseIdx index
  if index = 0 ∧ letters = [] then takeStack left else modifyShell fun p => { p with dirStack := left.drop 1 }
  showStack

def dirs : Builtin := fun _ args => do
  let (letters, arg) ← dirsOptions args
  let p ← shell
  let stack := stackOf p
  let shown (dir : Octets) : Octets := if letters.contains 'l' then dir else shortened p dir
  if letters.contains 'c' then
    modifyShell fun p => { p with dirStack := [] }
    return 0
  else match arg.bind (stackIndex? stack.length) with
    | some (some n) => printLine (shown (stack.getD n []))
    | some none => outOfRange (arg.getD [])
    | none =>
      if letters.contains 'v' then
        print (((List.range stack.length).zip stack).flatMap fun (i, dir) =>
          let n := Text.ofNat i
          List.replicate (2 - n.length) ' ' ++ n ++ "  ".toList ++ shown dir ++ ['\n'])
      else if letters.contains 'p' then print (stack.flatMap (shown · ++ ['\n']))
      else printLine (Text.join [' '] (stack.map shown))
where
  dirsOptions (args : List Octets) : ShellM (List Char × Option Octets) := stackOptions "clpv".toList args

def pwd : Builtin := fun _ args => do
  let (found, _) ← options "LP" "" args
  let p ← shell
  printLine (if (found.map (·.1)).getLast? == some 'P' then physicalPath p else p.logicalDir)

end KarelBuild.Shell.Builtin
