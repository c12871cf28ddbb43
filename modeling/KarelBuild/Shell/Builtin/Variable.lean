import KarelBuild.Shell.Builtin.Basic

/-!
# Builtins for variables

Listing, exporting, protecting and forgetting variables, and making them those of a call.
-/

namespace KarelBuild.Shell.Builtin

open ShellM

/-! ## Listing -/

/-- Variables that are worked out when they are asked for. -/
def dynamicNames : List Text :=
  ["BASHOPTS", "BASHPID", "BASH_COMMAND", "BASH_LINENO", "BASH_SOURCE", "BASH_SUBSHELL", "DIRSTACK", "EPOCHREALTIME",
    "EPOCHSECONDS", "FUNCNAME", "GROUPS", "LINENO", "RANDOM", "SECONDS", "SHELLOPTS", "SRANDOM", "_"].map
    String.toList

/-- All variables in order of their names, with those that are worked out. -/
def allVars (s : State) : List (Text × Variable) :=
  let stored := s.shell.vars.map fun (name, v) => (name, (s.var? name).getD v)
  let others := dynamicNames.filterMap fun name =>
    if stored.any (·.1 == name) then none else (s.var? name).map (name, ·)
  (stored ++ others).mergeSort fun a b => Text.le a.1 b.1

/-- A variable behind a word, with its value between quotes. -/
def shown (word : Octets) (name : Text) (v : Variable) : Octets :=
  let lead := if word = [] then [] else word ++ [' ']
  match v.content with
  | .text o => lead ++ name ++ '=' :: singleQuoted o ++ ['\n']
  | .unset => lead ++ name ++ ['\n']
  | c => lead ++ name ++ '=' :: singleQuoted (c.text?.getD []) ++ ['\n']

/-- A variable as the rich dialect shows it without its letters. -/
def shownBriefly (name : Text) (v : Variable) : Octets :=
  match v.content with
  | .unset => []
  | .text o => name ++ '=' :: Quoting.sparing o ++ ['\n']
  | c => name ++ '=' :: Quoting.items c ++ ['\n']

def sortedFunctions (p : Process) : List (Text × Statement) :=
  p.functions.mergeSort fun a b => Text.le a.1 b.1

/-- All variables, and in the rich dialect all functions. -/
def showAll : ShellM Nat := do
  let s ← get
  if ← isRich then
    let functions := (sortedFunctions s.shell).flatMap fun (name, body) => Written.function name body ++ ['\n']
    print ((allVars s).flatMap (fun (name, v) => shownBriefly name v) ++ functions)
  else
    print ((allVars s).flatMap fun (name, v) => if v.content = .unset then [] else shown [] name v)

/-- Variables of a kind behind a word that says so. -/
def showVars (word : Octets) (p : Variable → Bool) : ShellM Nat := do
  let vars := (allVars (← get)).filter fun (_, v) => p v
  let rich ← isRich
  print (vars.flatMap fun (name, v) => if rich then Quoting.declared name v else shown word name v)

/-! ## Arguments -/

/-- A variable, or a place of a list, that an argument names, and the value that it is set to or extended by. -/
structure Argument where
  name : Text
  sub : Option Text := none
  appends : Bool := false
  value : Option Octets := none

/-- What stands behind a name and its subscript: nothing, or a value. -/
def Argument.valueOf? : Octets → Option (Bool × Option Octets)
  | [] => some (false, none)
  | '=' :: r => some (false, some r)
  | '+' :: '=' :: r => some (true, some r)
  | _ => none

def Argument.ofText? (a : Octets) : Option Argument :=
  let name := a.takeWhile isNameChar
  if !isName name then none
  else match a.drop name.length with
    | '[' :: behind =>
      match Calculation.bracketed? 0 behind with
      | some (sub, rest) => (valueOf? rest).map fun (appends, value) => ⟨name, some sub, appends, value⟩
      | none => none
    | rest => (valueOf? rest).map fun (appends, value) => ⟨name, none, appends, value⟩

def notName (a : Octets) : Octets := '\x60' :: a ++ "': not a valid identifier".toList

/-- Whether an attempt did not fail; its complaint has been made. -/
def succeeds (m : ShellM Unit) : ShellM Bool := do
  tryCatch (do m; return true) fun leave =>
    match leave with
    | .failed => return false
    | leave => throw leave

/-- Do something for each argument; the status tells whether all went well. -/
def forAll (f : Octets → ShellM Unit) : List Octets → ShellM Nat
  | [] => return 0
  | a :: rest => do
    let well ← succeeds (f a)
    let code ← forAll f rest
    return if well then code else 1

/-- Set a variable, or extend what it holds. -/
def assignTo (name : Text) (appends : Bool) (o : Octets) : ShellM Unit := do
  let before := ((← get).parameter? name).getD []
  setVar name (← appended (← varNamed name) before o appends)

/-! ## Marking -/

/-- Mark a variable, setting it if a value is given. -/
def markOne (mark : Text → ShellM Unit) (a : Octets) : ShellM Unit := do
  if ← isRich then
    match Argument.ofText? a with
    | some ⟨name, none, appends, value⟩ =>
      match value with
      | some o => assignTo name appends o
      | none => pure ()
      mark name
    | _ => refuse (notName a)
  else
    let (name, value) := cutValue a
    requireName name
    match value with
    | some o => setVar name o
    | none => pure ()
    mark name

def markAll (mark : Text → ShellM Unit) (args : List Octets) : ShellM Nat := do
  if ← isRich then forAll (markOne mark) args
  else
    args.forM (markOne mark)
    return 0

/-- Give a function to programs that are started, or no more. -/
def exportFunction (on : Bool) (name : Text) : ShellM Unit := do
  match (← shell).functions.lookup name with
  | none => refuse (name ++ ": not a function".toList)
  | some body =>
    modifyShell fun p =>
      let others := p.exportedFunctions.filter (·.1 != name)
      { p with exportedFunctions := if on then others ++ [(name, Written.exported body)] else others }

def export_ : Builtin := fun _ args => do
  let (found, args) ← options "pfn" "" args
  let off := found.any (·.1 == 'n')
  if args = [] then showVars "export".toList (·.exported)
  else if found.any (·.1 == 'f') then forAll (exportFunction !off) args
  else if off then
    markAll (fun name => do putVar name { (← varNamed name) with exported := false }) args
  else if !(← isRich) ∧ found.any (·.1 == 'p') then showVars "export".toList (·.exported)
  else markAll exportVar args

def readonly : Builtin := fun _ args => do
  let (found, args) ← options "pfaA" "" args
  if args = [] then showVars "readonly".toList (·.readOnly)
  else if found.any (·.1 == 'f') then return 0
  else if !(← isRich) ∧ found.any (·.1 == 'p') then showVars "readonly".toList (·.readOnly)
  else markAll protectVar args

/-! ## Forgetting -/

def unsetFunction (name : Text) : ShellM Unit :=
  modifyShell fun p =>
    { p with
      functions := p.functions.filter (·.1 != name)
      exportedFunctions := p.exportedFunctions.filter (·.1 != name) }

/-- Forget a member of a list, or all of them. -/
def unsetMember (name sub : Octets) : ShellM Unit := do
  let name := (← shell).meantName name
  let v ← varNamed name
  if v.readOnly then refuse (name ++ ": cannot unset: readonly variable".toList)
  else match v.content with
    | .unset => return
    | .table ms => putVar name { v with content := .table (ms.filter (·.1 != sub)) }
    | .list ms =>
      if sub = ['@'] ∨ sub = ['*'] then putVar name { v with content := .list [] }
      else match ← placeIndex name sub with
        | (index, true) =>
          putVar name { v with content := .list (ms.filter fun m => Text.ofNat m.1 != index) }
        | _ => refuse ('[' :: sub ++ "]: bad array subscript".toList)
    | .text _ =>
      match ← placeIndex name sub with
      | (['0'], _) => unsetVar name
      | _ => refuse (name ++ ": not an array variable".toList)

def unsetOne (letters : List Char) (a : Octets) : ShellM Unit := do
  let rich ← isRich
  if letters.contains 'f' then unsetFunction a
  else if letters.contains 'n' && rich then eraseVar a
  else match (if rich then Process.cutPlace a else (a, none)) with
    | (name, some sub) => unsetMember name sub
    | (name, none) =>
      if !rich then
        requireName name
        unsetVar name
      else if !isName name then
        if letters.contains 'v' then refuse (notName a) else unsetFunction a
      else if (← shell).var? ((← shell).meantName name) |>.isSome then unsetVar name
      else if !letters.contains 'v' then unsetFunction name

def unset : Builtin := fun _ args => do
  if ← isRich then
    let (found, args) ← options "vfn" "" args
    forAll (unsetOne (found.map (·.1))) args
  else
    let (found, args) ← options "vf" "" args
    args.forM (unsetOne ((found.map (·.1)).getLast?.toList))
    return 0

/-! ## Variables of a call -/

/-- Make variables of the current call. -/
def localAll : List Octets → ShellM Unit
  | [] => return
  | a :: rest => do
    let (name, value) := cutValue a
    if name ≠ ['-'] then
      requireName name
      makeLocal name
      match value with
      | some o => setVar name o
      | none => pure ()
    localAll rest

def local_ : Builtin := fun _ args => do
  if (← shell).frames = [] then refuse "not in a function".toList
  else
    localAll args
    return 0

end KarelBuild.Shell.Builtin
