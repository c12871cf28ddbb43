import KarelBuild.Shell.Builtin.Variable

/-!
# Options and arguments of the shell

Turning options and habits on and off, replacing and shifting arguments, and reading options among them.
-/

namespace KarelBuild.Shell.Builtin

open ShellM

/-! ## Options of the shell -/

def setSwitch (on : Bool) (o : Switch) : ShellM Unit := modifyShell (o.put on)

/-- An option on a line, as it is or as the command that turns it on or off. -/
def switchLine (asCommands : Bool) (p : Process) (o : Switch) : Octets :=
  let on := o.isOn p
  let name := o.name.toList
  if asCommands then (if on then "set -o " else "set +o ").toList ++ name ++ ['\n']
  else
    let width := if p.dialect = .rich then 15 else 16
    name ++ List.replicate (width - name.length) ' ' ++ (if p.dialect = .rich then ['\t'] else []) ++
      (if on then "on" else "off").toList ++ ['\n']

def showOptions (asCommands : Bool) : ShellM Nat := do
  let p ← shell
  let lines := (Switch.all p.dialect).flatMap (switchLine asCommands p)
  print (if asCommands || p.dialect == .rich then lines else "Current option settings\n".toList ++ lines)

/-- Turn an option on or off by its name. -/
def setOptionNamed (on : Bool) (name : Octets) : ShellM Unit := do
  match Switch.named? (← shell).dialect name with
  | some o => setSwitch on o
  | none =>
    if ← isRich then
      complain (name ++ ": invalid option name".toList)
      failWith 2
    else refuse ("Illegal option -o ".toList ++ name)

def setLetter (on : Bool) (c : Char) : ShellM Unit := do
  match Switch.ofLetter? (← shell).dialect c with
  | some o => setSwitch on o
  | none =>
    if ← isRich then misused ((if on then '-' else '+') :: c :: ": invalid option".toList)
    else refuse ("Illegal option -".toList ++ [c])

/-- Options in front of the arguments. `none` if what follows does not become the arguments. -/
def takeOptions : (steps : Nat) → List Octets → ShellM (Option (List Octets))
  | 0, args => return some args
  | _, [] => return none
  | n + 1, a :: rest => do
    match a with
    | ['-'] =>
      setOption false 'x'
      setOption false 'v'
      return if rest = [] then none else some rest
    | ['-', '-'] => return some rest
    | '-' :: letters => takeOptions n (← letterRun true letters rest)
    | '+' :: letters => takeOptions n (← letterRun false letters rest)
    | _ => return some (a :: rest)
where
  letterRun (on : Bool) : List Char → List Octets → ShellM (List Octets)
    | [], rest => return rest
    | c :: cs, rest => do
      if c = 'o' then
        match rest with
        | [] =>
          let _ ← showOptions (!on)
          letterRun on cs []
        | name :: rest =>
          setOptionNamed on name
          letterRun on cs rest
      else
        setLetter on c
        letterRun on cs rest

/-- Replace the arguments. In the rich dialect reading options among them goes on as before. -/
def setArgs (args : List Octets) : ShellM Unit :=
  modifyShell fun p =>
    if p.dialect = .rich then { p with args } else { p with args, optionIndex := 1, optionOffset := none }

def set : Builtin := fun _ args => do
  if args = [] then showAll
  else
    match ← takeOptions (args.length + 1) args with
    | some args => setArgs args
    | none => pure ()
    return 0

/-! ## Habits -/

def habitLine (asCommands : Bool) (on : Bool) (name : Text) : Octets :=
  if asCommands then (if on then "shopt -s " else "shopt -u ").toList ++ name ++ ['\n']
  else name ++ List.replicate (15 - name.length) ' ' ++ '\t' :: (if on then "on" else "off").toList ++ ['\n']

/-- Turn a habit on or off, or show it; an option of the shell if that is asked for. -/
def changeHabit (letters : List Char) (name : Octets) : ShellM Nat := do
  let p ← shell
  if letters.contains 'o' then
    match Switch.named? .rich name with
    | some o =>
      if letters.contains 's' then setSwitch true o
      else if letters.contains 'u' then setSwitch false o
      else
        if !letters.contains 'q' then let _ ← print (switchLine (letters.contains 'p') p o)
        return if o.isOn p then 0 else 1
      return 0
    | none =>
      complain (name ++ ": invalid option name".toList)
      return 1
  else if !Switch.habits.any (·.1.toList == name) then
    complain (name ++ ": invalid shell option name".toList)
    return 1
  else
    let others := p.habits.filter (· != name)
    if letters.contains 's' then modifyShell fun p => { p with habits := name :: others }
    else if letters.contains 'u' then modifyShell fun p => { p with habits := others }
    else
      let on := p.habits.contains name
      if !letters.contains 'q' then let _ ← print (habitLine (letters.contains 'p') on name)
      return if on then 0 else 1
    return 0

def shopt : Builtin := fun _ args => do
  let (found, args) ← options "pqsuo" "" args
  let letters := found.map (·.1)
  let p ← shell
  if letters.contains 's' ∧ letters.contains 'u' then
    refuse "cannot set and unset shell options simultaneously".toList
  else if args = [] then
    let isShown (on : Bool) : Bool := if letters.contains 's' then on else !(letters.contains 'u' && on)
    if letters.contains 'q' then return 0
    else if letters.contains 'o' then
      print ((Switch.rich.filter fun o => isShown (o.isOn p)).flatMap (switchLine (letters.contains 'p') p))
    else
      print (Switch.habits.flatMap fun (name, _) =>
        let on := p.habits.contains name.toList
        if isShown on then habitLine (letters.contains 'p') on name.toList else [])
  else
    let mut code := 0
    for a in args do code := max code (← changeHabit letters a)
    return code

/-! ## Arguments -/

def shiftRich (args : List Octets) : ShellM Nat := do
  let n ← match args with
    | [] => pure 1
    | [a] => richNumber a
    | _ => tooMany
  let p ← shell
  let beyond (always : Bool) : ShellM Nat := do
    if always || hasHabit (← get) "shift_verbose" then
      complain (Text.ofInt n ++ ": shift count out of range".toList)
    return 1
  if n < 0 then beyond true
  else if p.args.length < n.toNat then beyond false
  else
    modifyShell fun p => { p with args := p.args.drop n.toNat }
    return 0

def shift : Builtin := fun _ args => do
  if ← isRich then shiftRich args
  else
    let n ← match args with
      | [] => pure 1
      | a :: _ => number a
    let p ← shell
    if p.args.length < n then refuse "can't shift that many".toList
    else
      modifyShell fun p => { p with args := p.args.drop n, optionIndex := 1, optionOffset := none }
      return 0

/-! ## Reading options -/

/-- What reading one option gives. -/
structure OptionRead where
  letter : Char
  value : Option Octets
  index : Nat
  offset : Option Nat
  complaint : Option Octets := none

/-- How an option is declared: not at all, alone, or with a value. -/
def declaredAs (declared : Text) (c : Char) : Option Bool :=
  match declared with
  | [] => none
  | d :: ':' :: r => if d = c then some true else declaredAs r c
  | d :: r => if d = c then some false else declaredAs r c

/-- Read the next option of the arguments; the index alone if there is none. -/
def nextOption (declared : Text) (args : List Octets) (index : Nat) (offset : Option Nat) :
    OptionRead ⊕ Nat :=
  let inside := match offset with
    | some k => if index > 1 then (args.getD (index - 2) []).drop k else []
    | none => []
  let fresh := args.getD (index - 1) []
  let (text, index) := if inside ≠ [] then (inside, index) else (fresh.drop 1, index + 1)
  if inside = [] ∧ !(fresh.head? = some '-' ∧ fresh.length > 1) then .inr (index - 1)
  else if inside = [] ∧ fresh = ['-', '-'] then .inr index
  else
    let silent := declared.head? = some ':'
    let c := text.headD '?'
    let rest := text.drop 1
    let here := (args.getD (index - 2) []).length - rest.length
    let offset := if rest = [] then none else some here
    match (if c = ':' then none else declaredAs declared c) with
    | none =>
      if silent then .inl ⟨'?', some [c], index, offset, none⟩
      else .inl ⟨'?', none, index, offset, some ("Illegal option -".toList ++ [c])⟩
    | some false => .inl ⟨c, some [], index, offset, none⟩
    | some true =>
      if rest ≠ [] then .inl ⟨c, some rest, index, none, none⟩
      else match args[index - 1]? with
        | some value => .inl ⟨c, some value, index + 1, none, none⟩
        | none =>
          if silent then .inl ⟨':', some [c], index, none, none⟩
          else .inl ⟨'?', none, index, none, some ("No arg for -".toList ++ c :: " option".toList)⟩

/-- Say what is wrong with an option, unless nothing is to be said. -/
def sayFault (silent : Bool) (fault : Octets) : ShellM Unit := do
  let p ← shell
  if p.dialect = .plain then say 2 (fault ++ ['\n'])
  else if !silent then
    let text := if "Illegal".toList.isPrefixOf fault then "illegal option -- ".toList ++ fault.drop 16
      else "option requires an argument -- ".toList ++ (fault.drop 12).take 1
    say 2 (p.name ++ ": ".toList ++ text ++ ['\n'])

def getopts : Builtin := fun _ args => do
  let rich ← isRich
  let args ← if rich then (do return (← options "" "" args).2) else pure args
  match args with
  | declared :: name :: more =>
    let p ← shell
    let args := if more = [] then p.args else more
    let index := if p.optionIndex > args.length + 1 then 1 else p.optionIndex
    let offset := if p.optionIndex > args.length + 1 then none else p.optionOffset
    let finish (index : Nat) (offset : Option Nat) (letter : Char) : ShellM Unit := do
      setVar "OPTIND".toList (Text.ofNat (if rich && offset.isSome then index - 1 else index))
      modifyShell fun p => { p with optionIndex := index, optionOffset := offset }
      if rich then requireName name
      setVar name [letter]
      modifyShell fun p => { p with optionIndex := index, optionOffset := offset }
    match nextOption declared args index offset with
    | .inr index =>
      if rich then unsetVar "OPTARG".toList
      finish index none '?'
      return 1
    | .inl r =>
      match r.complaint with
      | some c => sayFault (p.value? "OPTERR".toList == some ['0']) c
      | none => pure ()
      match r.value with
      | some o => if rich ∧ o = [] ∧ r.letter ≠ ':' ∧ declaredAs declared r.letter = some false
          then unsetVar "OPTARG".toList else setVar "OPTARG".toList o
      | none => unsetVar "OPTARG".toList
      finish r.index r.offset r.letter
      return 0
  | _ =>
    if rich then
      sayUsage
      return 2
    else refuse "Usage: getopts optstring var [arg...]".toList

end KarelBuild.Shell.Builtin
