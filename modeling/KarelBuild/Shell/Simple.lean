import KarelBuild.Shell.Builtin
import KarelBuild.Shell.Program

/-!
# Simple commands

The words of a simple command are expanded first, then its redirections, then its assignments. What
is run is the first word: a function, a builtin or a program. Assignments last as long as the command
unless it has no words or is a special builtin.
-/

namespace KarelBuild.Shell

open ShellM

/-! ## What is run -/

inductive Callee where
  | nothing
  | function (body : Statement)
  /-- Run text, become a program, or read a file: builtins that need more than their arguments. -/
  | eval
  | exec
  | source
  /-- `command` as a builtin of its own, which tells what names stand for. -/
  | explain
  | builtin (b : Builtin)
  | program

/-- The words of a command with what is known of the one in front. -/
structure Head where
  fields : List Octets
  rest : List Word
  callee : Callee := .nothing
  /-- A special builtin is meant, and nothing stands in front of it. -/
  special : Bool := false
  /-- Whether arguments that give a variable a value stay in one piece. -/
  declares : Bool := false
  standard : Bool := false

def sourceNames (rich : Bool) : List Text :=
  ["."].map String.toList ++ if rich then ["source".toList] else []

def calleeOf (p : Process) (functions : Bool) (name : Octets) : Callee :=
  let rich := p.dialect == .rich
  match if functions then p.functions.lookup name else none with
  | some body => .function body
  | none =>
    if p.disabled.contains name then .program
    else if name = "eval".toList then .eval
    else if name = "exec".toList then .exec
    else if (sourceNames rich).contains name then .source
    else if name = "command".toList then .explain
    else match Builtin.find? rich name with
      | some b => .builtin b
      | none => .program

def declaringNames : List Text :=
  ["declare", "export", "local", "readonly", "typeset"].map String.toList

section

variable (m : Machine)

/-- Expand words until there is a field. -/
def fill : List Word → ShellM (List Octets × List Word)
  | [] => return ([], [])
  | w :: rest => do
    match ← expandFields inWords w with
    | [] => fill rest
    | fields => return (fields, rest)

/-- The fields behind the first one, with the words still to be expanded. -/
def behind (fields : List Octets) (rest : List Word) : ShellM (List Octets × List Word) := do
  match fields.drop 1 with
  | [] => fill rest
  | fields => return (fields, rest)

/-- Pass over the options of `command` in front of the name that it runs; `none` if it runs none. -/
def passOptions : (steps : Nat) → (standard : Bool) → List Octets → List Word →
    ShellM (Option (Bool × List Octets × List Word))
  | 0, _, _, _ => return none
  | n + 1, standard, fields, rest => do
    match fields with
    | [] => return none
    | a :: _ =>
      if a = ['-', '-'] then
        let (fields, rest) ← behind fields rest
        return if fields = [] then none else some (standard, fields, rest)
      else if a.head? = some '-' ∧ a.length > 1 then
        if a.all fun c => c == '-' || c == 'p' then
          let (fields, rest) ← behind fields rest
          passOptions n true fields rest
        else return none
      else return some (standard, fields, rest)

/-- Find out what the first field stands for, behind any `command` in front of it. -/
def resolve : (steps : Nat) → (isFirst : Bool) → Head → ShellM Head
  | 0, _, h => return h
  | n + 1, isFirst, h => do
    match h.fields with
    | [] => return h
    | name :: _ =>
      let p ← shell
      let rich := p.dialect == .rich
      let callee := calleeOf p isFirst name
      let h := { h with
        callee
        special := isFirst && Builtin.isSpecial rich name && !(callee matches .function _)
        declares := declaringNames.contains name && !(callee matches .function _) }
      if rich ∧ name = "builtin".toList then
        let (fields, rest) ← behind h.fields h.rest
        resolve n false { h with fields, rest }
      else match callee with
        | .explain =>
          let (fields, rest) ← behind h.fields h.rest
          let whole := { h with fields := name :: fields, rest }
          match ← passOptions (fields.length + rest.length + 1) false fields rest with
          | none => return whole
          | some (standard, fields, rest) =>
            let inner ← resolve n false { h with fields, rest, standard := h.standard || standard }
            return { inner with special := false }
        | _ => return h

/-- Whether a word gives a variable a value, or in the rich dialect a place of a list, or appends to it. -/
def isAssignmentWord (rich : Bool) : Word → Bool
  | .plain t :: _ =>
    let name := t.takeWhile isNameChar
    let behind := t.drop name.length
    let behind := match rich, behind with
      | true, '[' :: r =>
        match Text.cut ']' r with
        | (_, some rest) => rest
        | _ => behind
      | _, _ => behind
    let behind := if rich && behind.head? = some '+' then behind.drop 1 else behind
    isName name && behind.head? == some '='
  | _ => false

/-- Expand the other words. -/
def expandRest (declares : Bool) : List Word → ShellM (List Octets)
  | [] => return []
  | w :: rest => do
    let fields ← if declares && isAssignmentWord (← isRich) w then do pure [← expandValue inWords w]
      else expandFields inWords w
    return fields ++ (← expandRest declares rest)

/-- How many prefixes may stand in front of what is run. -/
def maxPrefixes : Nat := 1000

def headOf (words : List Word) : ShellM Head := do
  let (fields, rest) ← fill words
  let h ← resolve maxPrefixes true { fields, rest }
  let more ← expandRest h.declares h.rest
  return { h with fields := h.fields ++ more, rest := [] }

/-! ## Assignments -/

/-- Put the members of a list into a variable, from a number on. -/
def assignMembers (name : Text) : (next : Nat) → List Member → ShellM Unit
  | _, [] => return
  | next, .entry key appends w :: rest => do
    let o ← expandValue inWords w
    let sub ← expandText inWords key
    match ← placeIndex name sub with
    | (index, true) =>
      let v ← varNamed name
      setPlace name index (← appended v ((v.content.at? index).getD []) o appends)
      assignMembers name (((String.ofList index).toNat?.getD 0) + 1) rest
    | _ =>
      complain ('[' :: sub ++ "]=".toList ++ o ++ ": bad array subscript".toList)
      assignMembers name next rest
  | next, .word w :: rest => do
    let fields ← expandFields inWords w
    let members := (List.range fields.length).zip fields
    members.forM fun (i, o) => do assignPlace name (Text.ofNat (next + i)) o
    assignMembers name (next + fields.length) rest

/-- Pairs of keys and values, as a table takes words without keys. -/
def assignPairs (name : Text) : List Octets → ShellM Unit
  | key :: o :: rest => do
    setEntry name key (← appended (← varNamed name) [] o false)
    assignPairs name rest
  | [key] => setEntry name key []
  | [] => return

def isEntry : Member → Bool
  | .entry _ _ _ => true
  | .word _ => false

def assignList (name : Text) (appends : Bool) (members : List Member) : ShellM Unit := do
  let name := (← shell).meantName name
  let v ← varNamed name
  if v.readOnly then refuseReadOnly name
  else
    let start := if appends then nextMember v.content else 0
    let isTable : Bool := v.content.isTable
    let fresh := match v.content, appends with
      | .table _, false => .table []
      | _, false => .list []
      | .text o, true => .list [(0, o)]
      | .unset, true => .list []
      | c, true => c
    if isTable && !members.any isEntry then
      let fields ← members.flatMapM fun
        | .word w => expandFields inWords w
        | _ => pure []
      putVar name { v with content := fresh, isBare := false }
      assignPairs name fields
    else if isTable then
      let kept ← members.filterM fun
        | .entry _ _ _ => return true
        | .word w => do
          complain (name ++ ": ".toList ++ Written.word w ++
            ": must use subscript when assigning associative array".toList)
          return false
      putVar name { v with content := fresh, isBare := false }
      assignMembers name start kept
    else
      let before := v.content
      putVar name { v with content := fresh, isBare := false }
      let ready ← members.mapM fun
        | .word w => do
          putVar name { (← varNamed name) with content := before }
          let fields ← expandFields inWords w
          return fields.map fun o => Member.word [.quoteMark '"', .quoted o, .quoteMark '"']
        | m => return [m]
      putVar name { (← varNamed name) with content := fresh }
      assignMembers name start ready.flatten

def assignMember (name : Text) (subscript : Word) (appends : Bool) (o : Octets) : ShellM Octets := do
  let sub ← expandText inWords subscript
  match ← placeIndex name sub with
  | (index, true) =>
    let v ← varNamed name
    setPlace name index (← appended v ((v.content.at? index).getD []) o appends)
    return sub
  | _ => refuse (name ++ '[' :: sub ++ "]: bad array subscript".toList)

/-- Carry out an assignment; gives how it is shown. -/
def assign : Assignment → ShellM Octets
  | .mk name none appends (.text w) => do
    let o ← expandValue inWords w
    let v ← varNamed name
    let before := match Process.cutPlace ((← shell).meant name) with
      | (_, some index) => (v.content.at? index).getD []
      | _ => (v.content.text?).getD []
    setVar name (← appended v before o appends)
    return name ++ (if appends then "+=".toList else ['=']) ++ Quoting.sparing o
  | .mk name (some subscript) appends (.text w) => do
    let o ← expandValue inWords w
    let sub ← assignMember name subscript appends o
    return name ++ '[' :: sub ++ (if appends then "]+=".toList else "]=".toList) ++ Quoting.sparing o
  | .mk name (some subscript) _ (.list _) => do
    refuse (name ++ '[' :: Written.word subscript ++ "]: cannot assign list to array member".toList)
  | .mk name none appends (.list members) => do
    assignList name appends members
    return Written.assigned Written.maxDepth (.mk name none appends (.list members))

/-! ## Tracing -/

/-- Show a text on a line of its own, behind what stands in front of each. In the rich dialect that begins
with more signs inside other commands. -/
def trace (number? : Option Nat) (text : Octets) : ShellM Unit := do
  let p ← shell
  let lead := (p.value? "PS4".toList).getD []
  modifyShell fun p => { p with options := p.options.filter (· != 'x') }
  let lead ← ensuring (traceLead lead) (setOption true 'x')
  let lead := if p.dialect = .rich then List.replicate p.depth (lead.headD '+') ++ lead else lead
  match number? with
  | some n => let _ ← writeTo n (lead ++ text ++ ['\n'])
  | none => return
where
  /-- The text in front, in which parameters are expanded. -/
  traceLead (lead : Octets) : ShellM Octets := do
    let p ← shell
    let r : Reading := { rest := lead ++ ['\x7d'], line := p.line, dialect := p.dialect, aliases := [] }
    match (parts (nestedIn (reader (lead.length + 2))) (lead.length + 2) .quotedValue) r with
    | .ok w _ => expandText inWords w
    | .error _ _ => return lead

/-- Show what the rich dialect shows of commands that are not simple. -/
def traceRich (text : Octets) : ShellM Unit := do
  if (← isRich) && (← hasOption 'x') then trace ((← shell).opened? 2) text

/-! ## Running -/

/-- How many calls may be nested. -/
def maxCalls : Nat := 1000

/-- The events whose traps a call does not take over. -/
def lostEvents (p : Process) : List Nat :=
  (if p.options.contains Switch.errtrace then [] else [failure]) ++
    if p.options.contains Switch.functrace then [] else [eachCommand, callEnd]

/-- Run with traps for events as a call has them. Afterwards those before are back, unless others were set. -/
def withOwnEvents (body : ShellM Unit) : ShellM Unit := do
  let p ← shell
  let (saved, kept) := p.traps.partition fun t => (lostEvents p).contains t.1
  modifyShell fun p => { p with traps := kept }
  ensuring (do body; runEvent m callEnd)
    (modifyShell fun p =>
      { p with traps := saved.filter (fun t => (trapFor? p t.1).isNone) ++ p.traps })

/-- Run the body of a function with arguments of its own. -/
def callFunction (flags : Flags) (name : Octets) (args : List Octets) (body : Statement) :
    ShellM Unit := do
  let before ← shell
  let rich := before.dialect == .rich
  if !rich && maxCalls ≤ before.calls.length then
    complain ("Maximum function recursion depth (".toList ++ Text.ofNat maxCalls ++ ") reached".toList)
    failWith 2
  let source := (before.sources.lookup name).getD "environment".toList
  modifyShell fun p =>
    { p with
      args, loops := 0, calls := ⟨name, p.line, source, false⟩ :: p.calls
      optionIndex := if rich then p.optionIndex else 1
      optionOffset := if rich then p.optionOffset else none }
  let run := tryCatch (m (.statement { tested := flags.tested } body)) fun leave =>
    match leave with
    | .endCall => return
    | leave => throw leave
  ensuring (if rich then withOwnEvents m run else run)
    (modifyShell fun p =>
      { p with
        args := before.args, loops := before.loops
        optionIndex := if rich then p.optionIndex else before.optionIndex
        optionOffset := if rich then p.optionOffset else before.optionOffset, calls := before.calls
        line := if rich then before.line else p.line })

/-- Run a builtin, which complains under its name. -/
def runBuiltin (special : Bool) (name : Octets) (b : ShellM Nat) : ShellM Unit := do
  let before := (← shell).builtin
  modifyShell fun p => { p with builtin := some name }
  tryCatch
    (ensuring (do setStatus (← b)) (modifyShell fun p => { p with builtin := before }))
    fun leave =>
      match leave with
      | .failed => if special then throw .failed else return
      | leave => throw leave

/-- Whether something has to be done when the shell ends. -/
def hasTraps (p : Process) : Bool := p.traps.any fun t => !isIgnored t

def runProgram (flags : Flags) (standard : Bool) (name : Octets) (args : List Octets) : ShellM Unit := do
  match ← findProgram standard name args with
  | .inr code => setStatus code
  | .inl l =>
    if flags.exits && !hasTraps (← shell) then becomeProgram m l else startProgram l

/-- Become another program; without one there is nothing to do. -/
def execProgram (standard : Bool) (args : List Octets) : ShellM Nat := do
  let (found, args) ← if ← isRich then Builtin.options "cl" "a" args else pure ([], args)
  match args with
  | [] => return 0
  | name :: rest =>
    match ← execTarget standard name rest with
    | .inl l =>
      if found.any (·.1 == 'c') then
        modifyShell fun p => { p with vars := p.vars.map fun (n, v) => (n, { v with exported := false }) }
      if ← isRich then
        let level := (((← shell).value? "SHLVL".toList).bind Arithmetic.number?).getD 0
        putVar "SHLVL".toList { content := .text (Text.ofInt (level - 1)), exported := !found.any (·.1 == 'c') }
      becomeProgram m { l with name := ((found.find? (·.1 == 'a')).map (·.2)).getD l.name }
      return 0
    | .inr code => if hasHabit (← get) "execfail" then return code else exit code
where
  execTarget (standard : Bool) (name : Octets) (rest : List Octets) : ShellM (Launch ⊕ Nat) := do
    let s ← get
    match (pathOf s (← dirsFor standard) (Octets.toText name)).bind fun path =>
        launchOf s path name rest with
    | .ok l => return .inl l
    | .error e =>
      if s.shell.dialect = .rich then
        complain (name ++ ": ".toList ++
          (if e = .noEntry ∧ !name.contains '/' then "not found" else e.wording).toList)
      else complain (name ++ ": ".toList ++ cannotRun e)
      return .inr (failureCode e)

/-- The file that a name without a slash stands for: in the search path, or right here. -/
def sourcePath (name : Octets) : ShellM (Option Octets) := do
  if name.contains '/' then return some name
  else
    let s ← get
    let isFile (p : Path) : Bool := s.world.tree.isFile s.shell.workDir p
    let paths := (Builtin.searchDirs s.shell).map fun d => Launch.pathIn d (Octets.toText name)
    let here := if s.shell.dialect = .rich then [Octets.toText name] else []
    return ((paths ++ here).find? isFile).map Octets.ofText

/-- Run the commands of a file in the shell itself. -/
def sourceFile (args : List Octets) : ShellM Nat := do
  match args with
  | [] => if ← isRich then Builtin.misused "filename argument required".toList else return 0
  | name :: rest =>
    let rich ← isRich
    match ← sourcePath name with
    | none =>
      if rich then
        modifyShell fun p => { p with builtin := none }
        refuse (name ++ ": ".toList ++ OsError.noEntry.wording.toList)
      else refuse (name ++ ": not found".toList)
    | some path =>
      match ← openPath path .reads with
      | .error e =>
        if rich then
          modifyShell fun p => { p with builtin := none }
          refuse (name ++ ": ".toList ++ e.wording.toList)
        else refuse (cannotOpen path e)
      | .ok n =>
        let text := match ← takeAll n with
          | .ok (.text o) => o
          | _ => []
        runFileText rich path rest text
where
  /-- Run the text of a file. -/
  runFileText (rich : Bool) (path : Octets) (rest : List Octets) (text : Octets) : ShellM Nat := do
    let before ← shell
    let ownArgs := rich ∧ rest ≠ []
    modifyShell fun p =>
      { p with
        builtin := if rich then none else some path
        sourced := p.sourced + 1
        textTag := []
        calls := if rich then ⟨"source".toList, p.line, path, true⟩ :: p.calls else p.calls
        args := if ownArgs then rest else p.args }
    ensuring
      (tryCatch (evalText m {} text) fun leave =>
        match leave with
        | .endCall => return
        | .unreadable => return
        | leave => throw leave)
      (modifyShell fun p =>
        { p with
          sourced := before.sourced
          calls := before.calls
          textTag := before.textTag
          line := if rich then before.line else p.line
          args := if ownArgs then before.args else p.args })
    status

def evalArguments (flags : Flags) (args : List Octets) : ShellM Nat := do
  let before ← shell
  let args := if before.dialect = .rich ∧ args.head? = some ['-', '-'] then args.drop 1 else args
  match args with
  | [] => return 0
  | _ =>
    let text := Text.join [' '] args
    if before.dialect = .rich then
      modifyShell fun p => { p with builtin := none, textTag := "eval".toList, depth := p.depth + 1 }
      ensuring (evenUnreadable (evalTextFrom m { tested := flags.tested } before.line text))
        (modifyShell fun p => { p with textTag := before.textTag, line := before.line, depth := before.depth })
    else evalText m { tested := flags.tested } text
    status

/-- Tell what names stand for. -/
def explainNames (args : List Octets) : ShellM Nat := do
  let (found, names) ← Builtin.options "pvV" "" args
  match (found.map (·.1)).filter (· != 'p') with
  | [] => return 0
  | c :: _ =>
    let rich ← isRich
    if rich then
      let mut code := 1
      for name in names do
        let c ← if c = 'V' then Builtin.explain name else Builtin.commandPath name
        code := min code c
      return code
    else match names with
      | name :: _ => if c = 'V' then Builtin.explain name else Builtin.commandPath name
      | [] => return 0

def runCallee (flags : Flags) (h : Head) : ShellM Unit := do
  let name := h.fields.headD []
  let args := h.fields.drop 1
  let asBuiltin := runBuiltin h.special name
  match h.callee with
  | .nothing => setStatus ((← shell).substituted.getD 0)
  | .function body => callFunction m flags name args body
  | .eval => asBuiltin (evalArguments m flags args)
  | .exec => asBuiltin (execProgram m h.standard args)
  | .source => asBuiltin (sourceFile m args)
  | .explain => asBuiltin (explainNames args)
  | .builtin b => asBuiltin (b m args)
  | .program => runProgram m flags h.standard name args

/-- The assignments that come before the command, and those of lists that its arguments make. -/
def splitAssignments (h : Head) (assignments : List Assignment) : List Assignment × List Assignment :=
  if h.declares then assignments.partition fun
    | .mk _ _ _ (.text _) => true
    | .mk _ _ _ (.list _) => false
  else (assignments, [])

/-- An assignment in front of a command, which it lasts as long as. In the rich dialect one that cannot be made
is passed over. -/
def assignBefore (lasting exports : Bool) (errors : Option Nat) (a : Assignment) : ShellM Unit := do
  let rich ← isRich
  let go : ShellM Unit := do
    if !lasting then makeLocal a.name
    let shown ← assign a
    if exports then exportVar a.name
    if rich && (← hasOption 'x') then trace errors shown
  if rich && !lasting then
    tryCatch go fun leave =>
      match leave with
      | .failed => return
      | leave => throw leave
  else go

/-- The words of a command as they are shown. -/
def shownWords (h : Head) : ShellM (List Octets) := do
  return if ← isRich then h.fields.map Quoting.traced else h.fields

/-- The arguments of a declaration without the letter that protects. -/
def unprotected (fields : List Octets) : List Octets :=
  fields.filterMap fun a =>
    match a with
    | '-' :: letters =>
      if letters.all Char.isAlpha then
        let kept := letters.filter (· != 'r')
        if kept = [] then none else some ('-' :: kept)
      else some a
    | a => some a

/-- Declare lists, and give them their members. Those to be protected are so afterwards. -/
def declareLists (flags : Flags) (h : Head) (lists : List Assignment) : ShellM Unit := do
  let isReadOnly := h.fields.head? = some "readonly".toList
  let protects := isReadOnly || (h.fields.drop 1).any fun a => a.head? == some '-' && a.contains 'r'
  let isList (a : Octets) : Bool := lists.any (·.name == a)
  let fields := if isReadOnly then h.fields.filter (!isList ·) else if protects then unprotected h.fields else h.fields
  if !isReadOnly || (fields.drop 1).any (·.head? != some '-') then
    runCallee m flags { h with fields }
  else setStatus 0
  if (← status) = 0 then
    lists.forM fun a => do
      let _ ← assign a
      if protects then protectVar a.name

/-- A list that is declared, as it is shown. -/
def shownList : Assignment → ShellM Octets
  | .mk name _ appends (.list members) => do
    let items ← members.flatMapM fun
      | .word w => do return (← expandFields inWords w).map Quoting.single
      | .entry key _ w => do
        return ['[' :: (← expandText inWords key) ++ "]=".toList ++ Quoting.single (← expandValue inWords w)]
    return name ++ (if appends then "+=(".toList else "=(".toList) ++ Text.join [' '] items ++ [')']
  | .mk name _ _ _ => return name

/-- Make the assignments, trace the command and run it. -/
def runAssigned (flags : Flags) (h : Head) (lasting : Bool) (errors : Option Nat)
    (assignments : List Assignment) : ShellM Unit := do
  let (before, after) := splitAssignments h assignments
  let exports := !lasting || (h.callee matches .exec) && h.fields.length > 1
  before.forM (assignBefore lasting exports errors)
  if ← hasOption 'x' then
    let rich ← isRich
    let p ← shell
    let values := if rich then [] else before.map fun a => a.name ++ '=' :: (p.value? a.name).getD []
    let words := values ++ (← shownWords h)
    after.forM fun a => do trace errors (← shownList a)
    if !rich || words ≠ [] then trace errors (Text.join [' '] words)
    if rich && h.declares then
      h.fields.drop 1 |>.forM fun a => do
        let isMarked := h.fields.head? == some "export".toList || h.fields.head? == some "readonly".toList
        if isMarked && a.head? != some '-' && a.contains '=' then
          let (name, value) := Builtin.cutValue a
          trace errors (name ++ '=' :: Quoting.sparing (value.getD []))
  if after = [] then runCallee m flags h else declareLists m flags h after

/-- Note which command is run, and run the trap for each of them. -/
def announce (s : Statement) : ShellM Unit := do
  if (← shell).running = [] then
    modifyShell fun p => { p with command := Thunk.mk fun _ => Written.statement s }
  runEvent m eachCommand

/-- Carry out a simple command. -/
def runSimple (flags : Flags) (line : Nat) (assignments : List Assignment) (words : List Word)
    (redirections : List Redirection) : ShellM Unit := do
  modifyShell fun p => { p with line := if line = 0 then p.line else line, substituted := none }
  let start ← shell
  let rich := start.dialect == .rich
  if rich then announce m (.simple line assignments words redirections)
  let h ← headOf words
  let lasting := h.special || (h.callee matches .nothing)
  let before ← shell
  let errors := before.opened? 2
  let ready ← redirections.mapM (prepare inWords)
  let fds := ready.flatMap Ready.changes
  let keeps := (h.callee matches .exec) && h.fields.length ≤ 1
  if !keeps then keep fds
  let body : ShellM Unit := do
    if ← redirectAll ready then runAssigned m flags h lasting errors assignments
    else
      setStatus (if rich then 1 else 2)
      if h.special then throw .failed
  let hasOwn := !lasting && ((splitAssignments h assignments).1 matches _ :: _ || h.callee matches .function _)
  let framed := if hasOwn then withFrame body else body
  if keeps then
    tryCatch framed fun leave => do
      giveBack before fds
      throw leave
  else ensuring framed (giveBack before fds)
  if rich then
    modifyShell fun p => { p with lastArg := h.fields.getLastD p.lastArg }
    closePassing start

end

end KarelBuild.Shell
