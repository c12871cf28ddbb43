import KarelBuild.Shell.Condition
import KarelBuild.Shell.Utility.Files

/-!
# Paths

Utilities that follow links and take paths apart, and the program that tests conditions.
-/

namespace KarelBuild.Shell.Utility

open ShellM

/-! ## Links -/

/-- The path without links of what a path leads to; with `lax`, names may be missing. -/
def canonical (lax mustExist : Bool) (o : Octets) : ShellM (Except OsError Octets) := do
  let (t, dir) ← treeAndDir
  let path := pathText o
  match t.locate dir path with
  | .ok place =>
    if mustExist ∧ (t.entry? place).isNone then return .error .noEntry
    else return .ok (Octets.ofText (Path.ofNames place))
  | .error e =>
    if !lax then return .error e
    else
      let start := if Path.isAbsolute path then [] else dir.place
      let names := Path.pieces path
      return .ok (Octets.ofText (Path.ofNames (go t dir start names)))
where
  /-- Follow what is there, and take the other names as they are. -/
  go (t : FileTree) (dir : WorkDir) : Place → List Name → Place
    | place, [] => place
    | place, n :: rest =>
      if n = ['.'] then go t dir place rest
      else if n = ['.', '.'] then go t dir place.dropLast rest
      else
        match t.locate dir (Path.ofNames (place ++ [n])) with
        | .ok p => go t dir p rest
        | .error _ => go t dir (place ++ [n]) rest

def readlink : Utility := fun _ args => do
  let g ← given (forms [('f', "canonicalize"), ('e', "canonicalize-existing"),
    ('m', "canonicalize-missing"), ('n', "no-newline"), ('q', "quiet"), ('s', "silent"), ('v', "verbose"),
    ('z', "zero")] []) args
  requireOperands "missing operand" g.operands
  let stop : Octets := if g.has 'z' then ['\x00'] else if g.has 'n' then [] else ['\n']
  forEach g.operands fun o => do
    let answer ← match g.last? "fem" with
      | some c => canonical (c == 'm') (c == 'e') o
      | none => do
        match ← statLink? o with
        | .ok (_, .link target) => pure (.ok (Octets.ofText target))
        | .ok _ => pure (.error .invalid)
        | .error e => pure (.error e)
    match answer with
    | .ok path =>
      emit (path ++ stop)
      return true
    | .error e =>
      if g.has 'v' then grumble (reason o e)
      return false

def realpath : Utility := fun _ args => do
  let g ← given (forms [('e', "canonicalize-existing"), ('m', "canonicalize-missing"), ('L', "logical"),
    ('P', "physical"), ('q', "quiet"), ('s', "no-symlinks"), ('z', "zero")]
    [('\x01', "relative-to"), ('\x02', "relative-base")]) args
  requireOperands "missing operand" g.operands
  forEach g.operands fun o => do
    let answer ← if g.has 's' ∧ o ≠ [] then do
        let p ← shell
        let here := Octets.ofText (Path.ofNames p.workDir.place)
        let start := if o.head? = some '/' then [] else Path.pieces here
        let names := (Path.pieces o).foldl (fun ns n =>
          if n = ['.'] then ns else if n = ['.', '.'] then ns.dropLast else ns ++ [n]) start
        pure (Except.ok (Path.ofNames names))
      else canonical (g.has 'm') (g.has 'e') o
    match answer with
    | .ok path =>
      let path := match g.value? '\x01' with
        | some base => relative (Path.pieces base) (Path.pieces path)
        | none => path
      emit (path ++ if g.has 'z' then ['\x00'] else ['\n'])
      return true
    | .error e =>
      if !g.has 'q' then grumble (reason o e)
      return false
where
  relative : List Text → List Text → Octets
    | b :: bs, p :: ps =>
      if b = p then relative bs ps
      else Text.join ['/'] ((b :: bs).map (fun _ => ['.', '.']) ++ p :: ps)
    | [], [] => ['.']
    | bs, ps => Text.join ['/'] (bs.map (fun _ => ['.', '.']) ++ ps)

/-! ## Names -/

def baseName (o suffix : Octets) : Octets :=
  let name := if o ≠ [] ∧ o.all (· == '/') then ['/'] else lastName o
  if name ≠ suffix ∧ suffix.isSuffixOf name then name.take (name.length - suffix.length) else name

def basename : Utility := fun _ args => do
  let g ← readGiven (forms [('a', "multiple"), ('z', "zero")] [('s', "suffix")]) 1 false args
  let stop : Octets := if g.has 'z' then ['\x00'] else ['\n']
  requireOperands "missing operand" g.operands
  if g.has 'a' || g.has 's' then
    emit (g.operands.flatMap fun o => baseName o ((g.value? 's').getD []) ++ stop)
    return 0
  else match g.operands with
    | _ :: _ :: extra :: _ => misuse 1 ("extra operand ".toList ++ quoted extra)
    | operands =>
      emit (baseName (operands.headD []) (operands.getD 1 []) ++ stop)
      return 0

def dirName (o : Octets) : Octets :=
  let bare := stripSlashes o
  if bare = ['/'] then ['/']
  else if !bare.contains '/' then ['.']
  else stripSlashes (bare.take (bare.length - (lastName o).length))

def dirname : Utility := fun _ args => do
  let g ← readGiven (forms [('z', "zero")] []) 1 false args
  requireOperands "missing operand" g.operands
  emit (g.operands.flatMap fun o => dirName o ++ if g.has 'z' then ['\x00'] else ['\n'])
  return 0

def pwd : Utility := fun _ args => do
  let g ← given (forms [('L', "logical"), ('P', "physical")] []) args
  if g.operands ≠ [] then grumble "ignoring non-option arguments".toList
  let p ← shell
  let physical := Octets.ofText (Path.ofNames p.workDir.place)
  let logical := match p.value? "PWD".toList with
    | some o =>
      let isPlain := o.head? = some '/' && !(Path.pieces o).any fun n => n == ['.'] || n == ['.', '.']
      if isPlain then some o else none
    | none => none
  let sameDir ← match logical with
    | some o => do
      match ← stat? o with
      | .ok (place, .dir) => pure (place == p.workDir.place)
      | _ => pure false
    | none => pure false
  emitLine (if g.last? "LP" = some 'L' && sameDir then logical.getD physical else physical)
  return 0

/-! ## Conditions -/

def describeFault (args : List Octets) : Condition.Malformed → Octets
  | .number t => "invalid integer ".toList ++ quoted t
  | .operator t message =>
    if message = "argument expected" then
      "missing argument after ".toList ++ quoted (args.getLastD [])
    else if t = [] then message.toList
    else
      match args with
      | [_, op, _] => quoted op ++ ": binary operator expected".toList
      | [_, _] => "missing argument after ".toList ++ quoted (args.getLastD [])
      | _ => "extra argument ".toList ++ quoted t

def testArguments (args : List Octets) : ShellM Nat := do
  match Condition.holds (← get) true args with
  | .ok b => return if b then 0 else 1
  | .error fault => stop 2 (describeFault args fault)

def test : Utility := fun _ args => testArguments args

def bracket : Utility := fun _ args => do
  if args.getLast? = some [']'] then testArguments args.dropLast
  else stop 2 "missing ']'".toList

/-! ## Names that can be used elsewhere -/

def portableCharacters : Octets :=
  "/ABCDEFGHIJKLMNOPQRSTUVWXYZabcdefghijklmnopqrstuvwxyz0123456789._-".toList

/-- What keeps a path from being used: on this host, or with `basic` on any. -/
def pathFault? (basic extra : Bool) (o : Octets) : ShellM (Option Octets) := do
  let parts := (Text.split '/' o).filter (· != [])
  if extra && (Text.split '/' o).any (·.head? == some '-') then
    return some ("leading '-' in a component of file name ".toList ++ quoted o)
  else if (basic || extra) && o.isEmpty then return some "empty file name".toList
  else
    let found ← (status? false o : ShellM _)
    let isThere := match found with
      | .ok _ => true
      | .error _ => false
    let refused : Option Octets := match found with
      | .error e => if e = .noEntry ∧ o ≠ [] then none else some (named o ++ ": ".toList ++ e.wording.toList)
      | .ok _ => none
    match if basic then o.find? (!portableCharacters.contains ·) else none, refused with
    | some c, _ => return some ("nonportable character ".toList ++ quoted [c] ++ " in file name ".toList ++ quoted o)
    | none, some message => if basic then return limits isThere parts else return some message
    | none, none => return limits isThere parts
where
  exceeded (limit length : Nat) (what : String) (name : Octets) : Octets :=
    "limit ".toList ++ Text.ofNat limit ++ " exceeded by length ".toList ++ Text.ofNat length ++ " of ".toList ++
      what.toList ++ ' ' :: quoted name
  limits (isThere : Bool) (parts : List Octets) : Option Octets :=
    let most := if basic then 255 else 4095
    let mostOfName := if basic then 14 else 255
    if (basic || !isThere) && most < o.length then some (exceeded most o.length "file name" o)
    else if basic || !isThere then
      (parts.find? (mostOfName < ·.length)).map fun p => exceeded mostOfName p.length "file name component" p
    else none

def pathchk : Utility := fun _ args => do
  let g ← readGiven (forms [('p', ""), ('P', ""), ('\x01', "portability")] []) 1 false args
  requireOperands "missing operand" g.operands
  let both := g.has '\x01'
  forEach g.operands fun o => do
    match ← pathFault? (g.has 'p' || both) (g.has 'P' || both) o with
    | none => return true
    | some message =>
      grumble message
      return false

end KarelBuild.Shell.Utility
