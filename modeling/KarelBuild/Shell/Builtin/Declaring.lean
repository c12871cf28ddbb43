import KarelBuild.Shell.Builtin.Variable

/-!
# Declarations

Declaring a variable of the rich dialect says what it may hold and how its values are changed when they are
set. Inside a call the variable is one of the call, unless a global one is asked for.
-/

namespace KarelBuild.Shell.Builtin

open ShellM

/-- What is said of variables: letters that are put on and taken off, and whose variables are meant. -/
structure Declaration where
  on : List Char := []
  off : List Char := []
  isOfCall : Bool := false
  isGlobal : Bool := false

namespace Declaration

def puts (d : Declaration) (c : Char) : Bool := d.on.contains c

def drops (d : Declaration) (c : Char) : Bool := d.off.contains c

/-- Letters that the arguments begin with, and what follows. -/
def letters (known : List Char) : Declaration → List Octets → ShellM (Declaration × List Octets)
  | d, [] => return (d, [])
  | d, a :: rest => do
    match a with
    | ['-', '-'] => return (d, rest)
    | '-' :: c :: r =>
      match (c :: r).find? (!known.contains ·) with
      | some c => misused ('-' :: c :: ": invalid option".toList)
      | none => letters known { d with on := d.on ++ c :: r } rest
    | '+' :: c :: r =>
      match (c :: r).find? (!known.contains ·) with
      | some c => misused ('+' :: c :: ": invalid option".toList)
      | none => letters known { d with off := d.off ++ c :: r } rest
    | _ => return (d, a :: rest)

end Declaration

/-! ## Kinds of variables -/

/-- What a variable holds when it becomes a list or a table. -/
def convert (d : Declaration) (name : Text) (c : Content) : ShellM Content := do
  if d.puts 'A' then
    match c with
    | .unset => return .table []
    | .text o => return .table [(['0'], o)]
    | .table ms => return .table ms
    | .list _ => refuse (name ++ ": cannot convert indexed to associative array".toList)
  else if d.puts 'a' then
    match c with
    | .unset => return .list []
    | .text o => return .list [(0, o)]
    | .list ms => return .list ms
    | .table _ => refuse (name ++ ": cannot convert associative to indexed array".toList)
  else match c, d.drops 'a' || d.drops 'A' with
    | .list _, true => refuse (name ++ ": cannot destroy array variables in this way".toList)
    | .table _, true => refuse (name ++ ": cannot destroy array variables in this way".toList)
    | c, _ => return c

/-- How letters are changed from now on. Opposite wishes cancel each other. -/
def casingOf (d : Declaration) (before : Casing) : Casing :=
  let wishes := [('u', Casing.upper), ('l', .lower), ('c', .capital)].filter fun w => d.puts w.1
  match wishes with
  | [w] => w.2
  | [] =>
    let isDropped := match before with
      | .upper => d.drops 'u'
      | .lower => d.drops 'l'
      | .capital => d.drops 'c'
      | .kept => false
    if isDropped then .kept else before
  | _ => .kept

/-- A variable with what is said of it, apart from being protected. -/
def marked (d : Declaration) (name : Text) (v : Variable) : ShellM Variable := do
  let flag (c : Char) (before : Bool) : Bool := (before || d.puts c) && !d.drops c
  let content ← convert d name v.content
  let isBare := v.isBare || (v.content == .unset && content != .unset)
  return { v with
    content, isBare
    exported := flag 'x' v.exported, isNumber := flag 'i' v.isNumber, isTraced := flag 't' v.isTraced
    casing := casingOf d v.casing }

/-! ## Names for others -/

/-- Make a name stand for another variable. -/
def declareReference (d : Declaration) (x : Argument) : ShellM Unit := do
  let v := ((← shell).var? x.name).getD {}
  match x.value with
  | none => putVar x.name { v with refers := true }
  | some target =>
    let base := (Process.cutPlace target).1
    if target ≠ [] ∧ !isName base then
      refuse ('\x60' :: target ++ "': invalid variable name for name reference".toList)
    else if base = x.name ∧ !d.isOfCall then
      refuse (x.name ++ ": nameref variable self references not allowed".toList)
    else
      if base = x.name then complain ("warning: ".toList ++ x.name ++ ": circular name reference".toList)
      putVar x.name { v with refers := true, content := .text target }
  if d.puts 'r' then putVar x.name { ((← shell).var? x.name).getD {} with readOnly := true }

/-! ## Declaring -/

/-- Whether a value is a list in parentheses. -/
def isListed (o : Octets) : Bool := o.head? == some '(' && o.getLast? == some ')'

section

variable (m : Machine) (d : Declaration)

/-- Set what an argument names to its value. -/
def setDeclared (x : Argument) (o : Octets) : ShellM Unit := do
  match x.sub with
  | some sub =>
    match ← placeIndex x.name sub with
    | (index, true) =>
      let v ← varNamed x.name
      setPlace x.name index (← appended v ((v.content.at? index).getD []) o x.appends)
    | _ => refuse (x.name ++ '[' :: sub ++ "]: bad array subscript".toList)
  | none =>
    if (d.puts 'a' || d.puts 'A') && isListed o then
      m (.text {} (x.name ++ (if x.appends then "+=".toList else ['=']) ++ o))
    else assignTo x.name x.appends o

/-- Say of a variable what there is to say, and give it its value. -/
def declareVar (x : Argument) : ShellM Unit := do
  let name := (← shell).meantName x.name
  let v := ((← shell).var? name).getD {}
  if v.readOnly ∧ (x.value.isSome ∨ d.drops 'r') then refuse (name ++ ": readonly variable".toList)
  else
    let d' := if x.sub.isSome ∧ v.content = .unset ∧ !d.puts 'A' then { d with on := 'a' :: d.on } else d
    putVar name (← marked d' name v)
    match x.value with
    | some o => setDeclared m d { x with name } o
    | none => pure ()
    if d.puts 'r' then protectVar name
    noteChange name

/-- Make a variable one of the call. It begins without a value, and is given to programs if it was before. -/
def makeOwn (name : Text) : ShellM Unit := do
  let p ← shell
  let isOwn := (p.frames.headD []).any (·.1 == name)
  makeLocal name
  let keeps := isOwn || d.puts 'I' || hasHabit (← get) "localvar_inherit"
  if !keeps then putVar name { exported := ((p.var? name).map (·.exported)).getD false }

/-- Do something to the variable that calls do not see a one of their own for. -/
def inGlobal (name : Text) (f : ShellM Unit) : ShellM Unit := do
  let p ← shell
  let isSaved (frame : List (Text × Option Variable)) : Bool := frame.any (·.1 == name)
  match p.frames.findIdx? isSaved with
  | none => f
  | some _ =>
    let outermost := p.frames.length - 1 - (p.frames.reverse.findIdx isSaved)
    let own := p.var? name
    let put (v : Option Variable) : ShellM Unit := match v with
      | some v => putVar name v
      | none => eraseVar name
    put ((p.frames.getD outermost []).lookup name).join
    ensuring f do
      let v := (← shell).var? name
      modifyShell fun p =>
        { p with frames := p.frames.modify outermost fun frame =>
            frame.map fun e => if e.1 = name then (name, v) else e }
      put own

def declareOne (a : Octets) : ShellM Unit := do
  if a = ['-'] ∧ d.isOfCall then
    modifyShell fun p =>
      match p.frames with
      | [] => p
      | frame :: rest =>
        { p with frames := ((optionsName, some { content := .text p.options }) :: frame) :: rest }
  else match Argument.ofText? a with
    | none => refuse (notName a)
    | some x =>
      let go : ShellM Unit := do
        if d.puts 'n' then declareReference d x
        else if d.drops 'n' then
          putVar x.name { ((← shell).var? x.name).getD {} with refers := false }
        else declareVar m d x
      if d.isOfCall then
        let protects := ((← shell).var? x.name).any (·.readOnly) && !((← shell).frames.headD []).any (·.1 == x.name)
        if protects then refuse (x.name ++ ": readonly variable".toList)
        makeOwn d x.name
        go
      else if d.isGlobal then inGlobal x.name go
      else go

end

/-! ## Showing -/

/-- Whether a variable is of the kind that letters ask for. -/
def isOfKind (letters : List Char) (v : Variable) : Bool :=
  let kinds := letters.filter "aAilnrtuxc".toList.contains
  kinds.all v.letters.contains

def showFunction (name : Text) (body : Statement) : ShellM Unit := do
  let _ ← print (Written.function name body ++ ['\n'])
  if (← shell).exportedFunctions.any (·.1 == name) then
    let _ ← print ("declare -fx ".toList ++ name ++ ['\n'])

/-- The line for a function whose commands are not shown. -/
def functionLine (p : Process) (name : Text) : Octets :=
  "declare -f".toList ++ (if p.exportedFunctions.any (·.1 == name) then ['x'] else []) ++ ' ' :: name ++ ['\n']

/-- Show functions, their names only if that is asked for. -/
def showFunctions (onlyNames : Bool) (names : List Octets) : ShellM Nat := do
  let p ← shell
  if names = [] then
    if onlyNames then print ((sortedFunctions p).flatMap fun (name, _) => functionLine p name)
    else
      (sortedFunctions p).forM fun (name, body) => showFunction name body
      return 0
  else
    let mut code := 0
    for name in names do
      match p.functions.lookup name with
      | some body =>
        if onlyNames then let _ ← printLine name
        else showFunction name body
      | none => code := 1
    return code

/-- Show what variables are. -/
def showDeclared (letters : List Char) (names : List Octets) : ShellM Nat := do
  let s ← get
  if names = [] then
    print ((allVars s).flatMap fun (name, v) => if isOfKind letters v then Quoting.declared name v else [])
  else forAll (fun a => do
    match s.var? a with
    | some v => let _ ← print (Quoting.declared a v)
    | none => refuse (a ++ ": not found".toList)) names

/-- Show the variables of the current call. -/
def showOwn : ShellM Nat := do
  let s ← get
  let names := ((s.shell.frames.headD []).map (·.1)).mergeSort Text.le
  print (names.flatMap fun name =>
    if name = optionsName then "local -\n".toList
    else ((s.var? name).map (Quoting.declared name)).getD [])

def declareWith (isLocal : Bool) : Builtin := fun m args => do
  let (d, args) ← Declaration.letters "aAfFgiIlnprtuxc".toList {} args
  let p ← shell
  let isInside := p.calls.any (!·.isFile)
  let d := { d with isOfCall := (isLocal || !d.puts 'g') && isInside, isGlobal := d.puts 'g' && isInside }
  if d.puts 'F' ∨ d.puts 'f' then
    if d.puts 'x' ∧ args ≠ [] then forAll (exportFunction true) args
    else if d.drops 'x' ∧ args ≠ [] then forAll (exportFunction false) args
    else showFunctions (d.puts 'F') args
  else if d.puts 'p' then showDeclared d.on args
  else if args = [] then
    if isLocal then showOwn else if d.on = [] then showAll else showDeclared d.on []
  else forAll (declareOne m d) args

def declare : Builtin := declareWith false

def localRich : Builtin := fun m args => do
  if (← shell).calls.all (·.isFile) then refuse "can only be used in a function".toList
  else declareWith true m args

end KarelBuild.Shell.Builtin
