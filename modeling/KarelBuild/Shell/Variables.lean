import KarelBuild.Shell.Descriptor

/-!
# Variables

Setting and forgetting variables. One that may only be read stays as it is, and the attempt ends the
command. A call keeps what a variable was before it became one of its own.
-/

namespace KarelBuild.Shell

namespace Process

/-! ## Names that stand for others -/

/-- A name with its subscript, as it is written. -/
def cutPlace (t : Text) : Text × Option Text :=
  match Text.cut '[' t with
  | (name, some rest) => if rest.getLast? = some ']' then (name, some rest.dropLast) else (t, none)
  | _ => (t, none)

/-- The variable that a name stands for in the end, which may be a place in a list. -/
def referent (p : Process) : (steps : Nat) → Text → Text
  | 0, name => name
  | n + 1, name =>
    match p.var? name with
    | some v =>
      match v.refers, v.content with
      | true, .text (c :: r) => if c :: r = name then name else referent p n (c :: r)
      | _, _ => name
    | none => name

def maxReferents : Nat := 16

def meant (p : Process) (name : Text) : Text := p.referent maxReferents name

/-- The variable that a name stands for, apart from any subscript. -/
def meantName (p : Process) (name : Text) : Text := (cutPlace (p.meant name)).1

end Process

namespace ShellM

def putVar (name : Text) (v : Variable) : ShellM Unit :=
  modifyShell fun p => { p with vars := put p.vars name v }
where
  put : List (Text × Variable) → Text → Variable → List (Text × Variable)
    | [], name, v => [(name, v)]
    | (n, u) :: r, name, v => if n = name then (n, v) :: r else (n, u) :: put r name v

def eraseVar (name : Text) : ShellM Unit :=
  modifyShell fun p => { p with vars := p.vars.filter (·.1 != name) }

def varNamed (name : Text) : ShellM Variable := do
  let p ← shell
  return (p.var? (p.meantName name)).getD {}

/-- Complain of a change to a variable that may only be read. In the rich dialect it is never a builtin that
does so. -/
def refuseReadOnly {α : Type} (name : Text) : ShellM α := do
  if ← isRich then
    let builtin := (← shell).builtin
    modifyShell fun p => { p with builtin := none }
    complain (name ++ ": readonly variable".toList)
    modifyShell fun p => { p with builtin }
    failWith 1
  else refuse (name ++ ": is read only".toList)

/-- What follows from a new value. -/
def noteChange (name : Text) : ShellM Unit := do
  let p ← shell
  if p.dialect = .rich then
    let number := ((p.value? name).bind fun o => (String.ofList o).toNat?).getD 0
    if name = "RANDOM".toList then modifyShell fun p => { p with seed := number }
    else if name = "SECONDS".toList then
      let now := (← world).clock / 1000000
      modifyShell fun p => { p with since := now - min now number, secondsAhead := number - min now number }
    else if name = "BASH_ARGV0".toList then
      modifyShell fun p => { p with name := (p.value? name).getD p.name }
  if name = "OPTIND".toList then
    modifyShell fun p =>
      let index := ((p.value? name).bind fun o => (String.ofList o).toNat?).getD 1
      { p with optionIndex := max index 1, optionOffset := none }
  else if name = "PATH".toList then modifyShell fun p => { p with found := [] }

/-- What a content becomes in a variable that changes letters. -/
def recased (casing : Casing) : Content → Content
  | .unset => .unset
  | .text o => .text (casing.apply o)
  | .list ms => .list (ms.map fun m => (m.1, casing.apply m.2))
  | .table ms => .table (ms.map fun m => (m.1, casing.apply m.2))

def setContentOf (name : Text) (c : Content) : ShellM Unit := do
  let v := ((← shell).var? name).getD {}
  if v.readOnly then refuseReadOnly name
  else
    let exported := v.exported || (← hasOption 'a')
    putVar name { v with isBare := false, content := if v.casing = .kept then c else recased v.casing c, exported }
    noteChange name

def setContent (name : Text) (c : Content) : ShellM Unit := do setContentOf ((← shell).meantName name) c

/-- Set a member of a list, which the variable becomes if it is none. -/
def setMember (name : Text) (n : Nat) (o : Octets) : ShellM Unit := do
  let before := match (← varNamed name).content with
    | .list ms => ms
    | .text t => [(0, t)]
    | _ => []
  setContent name (.list (Content.insert n o before))

def setEntry (name : Text) (key o : Octets) : ShellM Unit := do
  let before := match (← varNamed name).content with
    | .table ms => ms
    | _ => []
  setContent name (.table (Content.insertEntry key o before))

/-- Set the place of a list or a table that a text names by a number or a key. -/
def setPlace (name : Text) (index o : Octets) : ShellM Unit := do
  match (← varNamed name).content with
  | .table _ => setEntry name index o
  | _ => setMember name ((String.ofList index).toNat?.getD 0) o

def setVar (name : Text) (o : Octets) : ShellM Unit := do
  let p ← shell
  match Process.cutPlace (p.meant name) with
  | (base, some index) => setPlace base index o
  | (name, none) =>
    match (p.var? name).map (·.content) with
    | some (Content.list ms) => setContentOf name (.list (Content.insert 0 o ms))
    | some (Content.table ms) => setContentOf name (.table (Content.insertEntry ['0'] o ms))
    | _ => setContentOf name (.text o)

def unsetVar (name : Text) : ShellM Unit := do
  let name := (← shell).meantName name
  if (← varNamed name).readOnly then
    if ← isRich then refuse (name ++ ": cannot unset: readonly variable".toList) else refuseReadOnly name
  else
    eraseVar name
    noteChange name

def exportVar (name : Text) : ShellM Unit := do
  let name := (← shell).meantName name
  putVar name { (← varNamed name) with exported := true }

def protectVar (name : Text) : ShellM Unit := do
  let name := (← shell).meantName name
  putVar name { (← varNamed name) with readOnly := true }

/-! ## Calls -/

/-- Make a variable one of the current call; what it was comes back at the end. -/
def makeLocal (name : Text) : ShellM Unit :=
  modifyShell fun p =>
    match p.frames with
    | [] => p
    | frame :: rest =>
      if frame.any (·.1 == name) then p
      else { p with frames := ((name, p.var? name) :: frame) :: rest }

/-- The name that stands for the options in what is given back. -/
def optionsName : Text := ['-']

def restore : List (Text × Option Variable) → ShellM Unit
  | [] => return
  | (['-'], some v) :: r => do
    modifyShell fun p => { p with options := v.content.text?.getD [] }
    restore r
  | (name, some v) :: r => do
    putVar name v
    noteChange name
    restore r
  | (name, none) :: r => do
    eraseVar name
    noteChange name
    restore r

/-- Run with a fresh set of variables to give back. -/
def withFrame {α : Type} (m : ShellM α) : ShellM α := do
  modifyShell fun p => { p with frames := [] :: p.frames }
  ensuring m do
    let p ← shell
    modifyShell fun p => { p with frames := p.frames.drop 1 }
    restore (p.frames.headD [])

end ShellM

/-! ## Values that change by themselves -/

/-- The next number in a row of them that looks random. -/
def nextSeed (seed : Nat) : Nat :=
  let n := if seed = 0 then 123459876 else seed
  let h := n / 127773
  let l := n % 127773
  let t : Int := 16807 * l - 2836 * h
  (if t < 0 then t + 0x7fffffff else t).toNat

def randomOf (seed : Nat) : Nat := ((seed >>> 16) ^^^ (seed &&& 0xffff)) &&& 0x7fff

/-- Draw a random number; it is another one than the last. -/
def drawRandom : ShellM Unit :=
  ShellM.modifyShell fun p =>
    let first := nextSeed p.seed
    let seed := if randomOf first = p.random then nextSeed first else first
    { p with seed, random := randomOf seed }

def listOf (items : List Octets) : Content := .list ((List.range items.length).zip items)

namespace Process

/-- Functions that are being run, the last first, and the script. -/
def callNames (p : Process) : List Octets :=
  if p.calls.all (·.isFile) && p.source.isNone then p.calls.map (·.name)
  else if p.calls = [] then [] else p.calls.map (·.name) ++ p.source.toList.map fun _ => "main".toList

end Process

/-- The value of a variable that the rich dialect works out when it is asked for. -/
def State.dynamic? (s : State) (name : Text) : Option Content :=
  let p := s.shell
  if p.dialect = .plain then none
  else match String.ofList name with
    | "LINENO" => some (.text (Text.ofNat p.line))
    | "BASHPID" => some (.text (Text.ofNat p.number))
    | "BASH_SUBSHELL" => some (.text (Text.ofNat p.level))
    | "RANDOM" => some (.text (Text.ofNat p.random))
    | "SRANDOM" => some (.text (Text.ofNat (p.random * 65537 + 12345)))
    | "SECONDS" => some (.text (Text.ofNat (s.world.clock / 1000000 - p.since + p.secondsAhead)))
    | "EPOCHSECONDS" => some (.text (Text.ofNat ((s.world.now / 1000000).toNat)))
    | "EPOCHREALTIME" =>
      let now := s.world.now.toNat
      let micros := Text.ofNat (now % 1000000)
      some (.text (Text.ofNat (now / 1000000) ++ '.' :: List.replicate (6 - micros.length) '0' ++ micros))
    | "BASH_COMMAND" => some (.text p.command.get)
    | "FUNCNAME" => if p.callNames = [] then none else some (listOf p.callNames)
    | "BASH_SOURCE" => if p.callSources = [] then none else some (listOf p.callSources)
    | "BASH_LINENO" =>
      let lines := p.calls.map fun c => Text.ofNat c.line
      let all := lines ++ p.source.toList.map fun _ => ['0']
      if all = [] then none else some (listOf all)
    | "SHELLOPTS" => some (.text (Switch.namesOn p))
    | "BASHOPTS" => some (.text (Switch.habitsOn p))
    | "GROUPS" => some (listOf [['0']])
    | "DIRSTACK" => some (listOf (p.logicalDir :: p.dirStack))
    | "_" => some (.text p.lastArg)
    | _ => none

/-- The variable that a name stands for now. -/
def State.var? (s : State) (name : Text) : Option Variable :=
  match s.dynamic? name with
  | some content => some { (s.shell.var? name).getD {} with content }
  | none => s.shell.var? name

/-! ## Parameters -/

namespace Process

/-- The value of a parameter that is neither all arguments nor a list. -/
def parameter? (p : Process) (name : Text) : Option Octets :=
  match name with
  | ['#'] => some (Text.ofNat p.args.length)
  | ['?'] => some (Text.ofNat p.status)
  | ['$'] => some (Text.ofNat p.root)
  | ['!'] => p.background.map Text.ofNat
  | ['-'] => some (Switch.letters p)
  | ['0'] => some p.name
  | c :: _ =>
    if c.isDigit then
      match (String.ofList name).toNat? with
      | some (n + 1) => p.args[n]?
      | _ => some p.name
    else p.value? name
  | [] => none

end Process

/-- The value of a parameter that is neither all arguments nor a list. -/
def State.parameter? (s : State) (name : Text) : Option Octets :=
  if name.head?.any isNameStart then
    match Process.cutPlace (s.shell.meant name) with
    | (name, none) => (s.var? name).bind (·.content.text?)
    | (name, some index) => (s.var? name).bind fun v => v.content.at? index
  else s.shell.parameter? name

/-- Whether a variable has a value. -/
def State.isSet (s : State) (name : Text) : Bool := (s.var? (s.shell.meant name)).any (·.content != .unset)

end KarelBuild.Shell
