import KarelBuild.FileTree.Removal
import KarelBuild.Shell.Regex.Reading
import KarelBuild.Shell.Utility.Describing
import KarelBuild.Shell.Utility.Running

/-!
# Finding files

`find` goes through everything at and below its paths and asks an expression of each entry. What the
expression does is done when it is asked.
-/

namespace KarelBuild.Shell.Utility

open ShellM

/-! ## Expressions -/

/-- A part of a format: text, or what is known of an entry, with marks, width and precision. -/
inductive FindPart where
  | text (o : Octets)
  | fact (marks : Octets) (width : Nat) (precision : Option Nat) (letter : Char)
  | time (letter : Char) (conversion : Char)
  | stop

/-- How permissions are compared: all the same, all set, or any set. -/
inductive BitTest where
  | exactly
  | all
  | any
  deriving DecidableEq, Repr

inductive FindTest where
  | always (answer : Bool)
  | name (pattern : Octets) (ignoresCase : Bool)
  | path (pattern : Octets) (ignoresCase : Bool)
  | linkName (pattern : Octets) (ignoresCase : Bool)
  | regex (r : Regex)
  | type (letters : List Char) (crosses : Bool)
  | isEmpty
  | size (order : Ordering) (n unit : Nat)
  | permissions (test : BitTest) (bits dirBits : Nat)
  | newer (time : Int)
  /-- How the time of the last change stands to one: before, within a span behind it, or after. -/
  | changed (order : Ordering) (time : Int) (span : Int)
  | count (what : Status → Nat) (order : Ordering) (n : Nat)
  | nobody (inGroup : Bool)
  | executable
  | print (stop : Char) (output : Option Nat)
  | printf (format : List FindPart) (output : Option Nat)
  | list (output : Option Nat)
  | delete
  | prune
  | exec (command : List Octets) (inDir asks : Bool)
  | execAll (id : Nat) (command : List Octets) (inDir : Bool)
  | quit
  | negated (t : FindTest)
  | both (a b : FindTest)
  | either (a b : FindTest)
  | inOrder (a b : FindTest)

/-- Whether the expression does something, so that nothing is printed on its own. -/
def FindTest.acts : FindTest → Bool
  | print _ _ => true
  | printf _ _ => true
  | list _ => true
  | delete => true
  | exec _ _ _ => true
  | execAll _ _ _ => true
  | quit => false
  | negated t => t.acts
  | both a b => a.acts || b.acts
  | either a b => a.acts || b.acts
  | inOrder a b => a.acts || b.acts
  | _ => false

/-! ## Reading the expression -/

structure FindLimits where
  rest : List Octets
  now : Int := 0
  least : Nat := 0
  most : Nat := maxDepth
  depthFirst : Bool := false
  regexForm : String := "emacs"
  gathered : Nat := 0
  follows : Bool := false
  /-- Whether paths of the command line that are links are followed. -/
  followsTop : Bool := false

abbrev FindReader := StateT FindLimits ShellM

def findNumber (option : Octets) (t : Octets) : ShellM Nat := do
  if isNumber t then return digitsValue t
  else stop 1 ("Expected a positive decimal integer argument to ".toList ++ option ++ ", but got ".toList ++
    quoted t)

/-- The words of a command up to the one that ends it, and whether a plus sign does. -/
def commandWords : List Octets → List Octets → Option (List Octets × Bool × List Octets)
  | _, [] => none
  | back, w :: rest =>
    if w = [';'] then some (back.reverse, false, rest)
    else if w = ['+'] ∧ back.head? = some "\x7b\x7d".toList then some (back.reverse, true, rest)
    else commandWords (w :: back) rest

/-- Whether a number is to be less, the same or more, and the number behind the sign. -/
def orderSign (t : Octets) : Ordering × Octets :=
  match t with
  | '+' :: r => (.gt, r)
  | '-' :: r => (.lt, r)
  | r => (.eq, r)

def findRegexForms : List String :=
  ["findutils-default", "ed", "emacs", "gnu-awk", "grep", "posix-awk", "awk", "posix-basic", "posix-egrep",
    "egrep", "posix-extended", "posix-minimal-basic", "sed"]

def findRegex (form : String) (ignoresCase : Bool) (t : Octets) : ShellM Regex := do
  let isBasic := ["ed", "grep", "posix-basic", "posix-minimal-basic", "sed"].contains form
  let isEmacs := form = "emacs" ∨ form = "findutils-default"
  match Regex.ofText? (!isBasic && !isEmacs) ignoresCase (if isEmacs then Regex.withPlainRepeats false t else t) with
  | .ok r => return .both r .textEnd
  | .error e =>
    stop 1 ("failed to compile regular expression '".toList ++ t ++ "': ".toList ++ e.toList)

/-- Read a format up to what ends it; remarks on what is not known. -/
def findParts : (steps : Nat) → (text : Octets) → Octets → ShellM (List FindPart)
  | 0, _, _ => return []
  | n + 1, text, t => do
    let before : List FindPart := if text = [] then [] else [.text text.reverse]
    match t with
    | [] => return before
    | '\\' :: r =>
      match r with
      | [] =>
        grumble "warning: escape \x60\\' followed by nothing at all".toList
        return before ++ [.text ['\\']]
      | 'c' :: _ => return before ++ [.stop]
      | c :: rest =>
        if isOctalDigit c then
          let ds := (r.take 3).takeWhile isOctalDigit
          findParts n (Char.ofNat (Mode.octalValue ds % 256) :: text) (r.drop ds.length)
        else match (('\\', '\\') :: escapeLetters).lookup c with
          | some d => findParts n (d :: text) rest
          | none =>
            grumble ("warning: unrecognized escape \x60\\".toList ++ [c, '\''])
            findParts n (c :: '\\' :: text) rest
    | '%' :: '%' :: r => findParts n ('%' :: text) r
    | '%' :: r =>
      let marks := r.takeWhile "-+ 0#".toList.contains
      let rest := r.drop marks.length
      let width := rest.takeWhile Char.isDigit
      let rest := rest.drop width.length
      let (precision, rest) : Option Nat × Octets := match rest with
        | '.' :: more =>
          let ds := more.takeWhile Char.isDigit
          (some (digitsValue ds), more.drop ds.length)
        | rest => (none, rest)
      match rest with
      | [] =>
        stop 1 "error: % at end of format string".toList
      | c :: more =>
        if "abcdDfFgGhHiklmMnpPsStuUyYZ".toList.contains c then
          return before ++ .fact marks (digitsValue width) precision c :: (← findParts n [] more)
        else if "ABCTW".toList.contains c then
          match more with
          | k :: more => return before ++ .time c k :: (← findParts n [] more)
          | [] => return before
        else
          grumble ("warning: unrecognized format directive \x60%".toList ++ [c, '\''])
          findParts n (c :: '%' :: text) more
    | c :: r => findParts n (c :: text) r

def formatParts (t : Octets) : ShellM (List FindPart) := findParts (t.length + 1) [] t

def findTypes (option : String) (t : Octets) : ShellM (List Char) := do
  if t = [] then
    stop 1 ("Arguments to ".toList ++ option.toList ++ " should contain at least one letter".toList)
  let parts := Text.split ',' t
  for part in parts do
    match part with
    | [c] =>
      if !"bcdpflsD".toList.contains c then
        stop 1 ("Unknown argument to ".toList ++ option.toList ++ ": ".toList ++ [c])
    | [] => stop 1 ("Last file type in list argument to ".toList ++ option.toList ++
        " is missing, i.e., list is ending on: ','".toList)
    | c :: _ =>
      if !"bcdpflsD".toList.contains c then
        stop 1 ("Unknown argument to ".toList ++ option.toList ++ ": ".toList ++ [c])
      else stop 1 ("Must separate multiple arguments to ".toList ++ option.toList ++ " using: ','".toList)
  return parts.flatten

def isFindStart (leading : Bool) (a : Octets) : Bool :=
  match a with
  | '-' :: _ :: _ => true
  | [')'] => !leading
  | [','] => !leading
  | ['('] => true
  | ['!'] => true
  | _ => false

/-- The entry that a test compares with. -/
def findReference (path : Octets) : FindReader Status := do
  match ← status? (← get).follows path with
  | .ok f => return f
  | .error e => stop 1 (quoted path ++ ": ".toList ++ e.wording.toList)

def findOutput (path : Octets) : ShellM Nat := do
  match ← openPath path .writes with
  | .ok n => return n
  | .error e => stop 1 (quoted path ++ ": ".toList ++ e.wording.toList)

def findArgument (option : Octets) : FindReader Octets := do
  match (← get).rest with
  | a :: rest =>
    modify fun s => { s with rest }
    return a
  | [] => stop 1 ("missing argument to \x60".toList ++ option ++ ['\''])

/-- A number with a sign that says how it is compared. -/
def findCount (option : Octets) : FindReader (Ordering × Nat) := do
  let a ← findArgument option
  let (order, ds) := orderSign a
  if isNumber ds then return (order, digitsValue ds)
  else stop 1 ("invalid argument \x60".toList ++ a ++ "' to \x60".toList ++ option ++ ['\''])

/-- A test of when an entry was changed, in units of so many seconds. -/
def findAge (option : Octets) (unit : Int) : FindReader FindTest := do
  let (order, n) ← findCount option
  let now := (← get).now
  let day : Int := 86400
  let start : Int := if unit ≠ day then now
    else if order = .lt then now - 1000000 else now - day * 1000000
  return .changed order.swap (start - n * unit * 1000000) (unit * 1000000)

def findSize (a : Octets) : ShellM FindTest := do
  let (order, t) := orderSign a
  let ds := t.takeWhile Char.isDigit
  let suffix := t.drop ds.length
  let unit : Option Nat := match suffix with
    | [] => some 512
    | ['b'] => some 512
    | ['c'] => some 1
    | ['w'] => some 2
    | ['k'] => some 1024
    | ['M'] => some 1048576
    | ['G'] => some 1073741824
    | _ => none
  match unit with
  | some unit =>
    if ds = [] then
      if suffix = [] then stop 1 "invalid null argument to -size".toList
      else stop 1 ("Invalid argument \x60".toList ++ a ++ "' to -size".toList)
    else return .size order (digitsValue ds) unit
  | none =>
    match t.getLast? with
    | some c =>
      if c.isDigit then stop 1 ("Invalid argument \x60".toList ++ a ++ "' to -size".toList)
      else stop 1 ("invalid -size type \x60".toList ++ [c, '\''])
    | none => stop 1 "invalid null argument to -size".toList

def findMode (a : Octets) : ShellM FindTest := do
  let (test, t) : BitTest × Octets := match a with
    | '-' :: r => (.all, r)
    | '/' :: r => (.any, r)
    | r => (.exactly, r)
  match Mode.ofText? t with
  | none => stop 1 ("invalid mode ".toList ++ quoted a)
  | some clauses =>
    return .permissions test (Mode.applyAll false 0 clauses 0) (Mode.applyAll true 0 clauses 0)

def findOwner (inGroup : Bool) (option a : Octets) : ShellM FindTest := do
  let table := if inGroup then Host.groupNumbers else Host.accountNumbers
  match table.lookup (Octets.toText a) with
  | some n => return .count (if inGroup then Status.group else Status.owner) .eq n
  | none =>
    if isNumber a then return .count (if inGroup then Status.group else Status.owner) .eq (digitsValue a)
    else if a = [] then stop 1 ("The argument to ".toList ++ option ++ " should not be empty".toList)
    else if inGroup then stop 1 (quoted a ++ " is not the name of an existing group".toList)
    else stop 1 (quoted a ++ " is not the name of a known user".toList)

/-- A command and what follows it. -/
def findCommand (option : Octets) (inDir asks : Bool) : FindReader FindTest := do
  match commandWords [] (← get).rest with
  | some ([], _, _) => stop 1 ("missing argument to \x60".toList ++ option ++ ['\''])
  | some (words, all, rest) =>
    modify fun s => { s with rest }
    if all ∧ !asks then
      if (words.filter (· == "\x7b\x7d".toList)).length > 1 then
        stop 1 ("Only one instance of \x7b\x7d is supported with ".toList ++ option ++ " ... +".toList)
      let id := (← get).gathered
      modify fun s => { s with gathered := id + 1 }
      return .execAll id words.dropLast inDir
    else return .exec words inDir asks
  | none => stop 1 ("missing argument to \x60".toList ++ option ++ ['\''])

section

variable (deeper : FindReader FindTest)

/-- What a word that begins with a hyphen asks or does. -/
def findNamed (t : Octets) : FindReader FindTest := do
  let argument := findArgument t
  match String.ofList t with
  | "-name" => return .name (← argument) false
  | "-iname" => return .name (← argument) true
  | "-path" => return .path (← argument) false
  | "-wholename" => return .path (← argument) false
  | "-ipath" => return .path (← argument) true
  | "-iwholename" => return .path (← argument) true
  | "-lname" => return .linkName (← argument) false
  | "-ilname" => return .linkName (← argument) true
  | "-regex" => do
    let a ← argument
    return .regex (← findRegex (← get).regexForm false a)
  | "-iregex" => do
    let a ← argument
    return .regex (← findRegex (← get).regexForm true a)
  | "-regextype" => do
    let a ← argument
    if findRegexForms.any (·.toList == a) then
      modify fun s => { s with regexForm := String.ofList a }
      return .always true
    else
      stop 1 ("Unknown regular expression type ".toList ++ quoted a ++ "; valid types are ".toList ++
        Text.join ", ".toList (findRegexForms.map fun n => quoted n.toList) ++ ['.'])
  | "-type" => do return .type (← findTypes "-type" (← argument)) false
  | "-xtype" => do return .type (← findTypes "-xtype" (← argument)) true
  | "-empty" => return .isEmpty
  | "-executable" => return .executable
  | "-readable" => return .always true
  | "-writable" => return .always true
  | "-true" => return .always true
  | "-false" => return .always false
  | "-newer" => do return .newer (← findReference (← argument)).time
  | "-anewer" => do return .newer (← findReference (← argument)).time
  | "-cnewer" => do return .newer (← findReference (← argument)).time
  | "-mtime" => findAge t 86400
  | "-atime" => findAge t 86400
  | "-ctime" => findAge t 86400
  | "-mmin" => findAge t 60
  | "-amin" => findAge t 60
  | "-cmin" => findAge t 60
  | "-size" => do return ← findSize (← argument)
  | "-perm" => do return ← findMode (← argument)
  | "-links" => do
    let (order, n) ← findCount t
    return .count Status.names order n
  | "-inum" => do
    let (order, n) ← findCount t
    return .count Status.node order n
  | "-uid" => do
    let (order, n) ← findCount t
    return .count Status.owner order n
  | "-gid" => do
    let (order, n) ← findCount t
    return .count Status.group order n
  | "-user" => do return ← findOwner false t (← argument)
  | "-group" => do return ← findOwner true t (← argument)
  | "-nouser" => return .nobody false
  | "-nogroup" => return .nobody true
  | "-samefile" => do return .count Status.node .eq (← findReference (← argument)).node
  | "-print" => return .print '\n' none
  | "-print0" => return .print '\x00' none
  | "-fprint" => do return .print '\n' (some (← findOutput (← argument)))
  | "-fprint0" => do return .print '\x00' (some (← findOutput (← argument)))
  | "-printf" => do return .printf (← formatParts (← argument)) none
  | "-fprintf" => do
    let path ← argument
    let format ← argument
    return .printf (← formatParts format) (some (← findOutput path))
  | "-ls" => return .list none
  | "-fls" => do return .list (some (← findOutput (← argument)))
  | "-delete" =>
    modify fun s => { s with depthFirst := true }
    return .delete
  | "-prune" => return .prune
  | "-quit" => return .quit
  | "-depth" => deeply
  | "-d" => deeply
  | "-maxdepth" => do
    let n ← findNumber t (← argument)
    modify fun s => { s with most := n }
    return .always true
  | "-mindepth" => do
    let n ← findNumber t (← argument)
    modify fun s => { s with least := n }
    return .always true
  | "-follow" => do
    modify fun s => { s with follows := true }
    return .always true
  | "-exec" => findCommand t false false
  | "-execdir" => findCommand t true false
  | "-ok" => findCommand t false true
  | "-okdir" => findCommand t true true
  | "-version" => introduce (versionLine "find".toList)
  | "--version" => introduce (versionLine "find".toList)
  | "-help" => introduce (usageLine "find".toList)
  | "--help" => introduce (usageLine "find".toList)
  | _ =>
    if ["-mount", "-xdev", "-noleaf", "-daystart", "-warn", "-nowarn", "-ignore_readdir_race",
        "-noignore_readdir_race"].contains (String.ofList t) then return .always true
    else match t with
      | '-' :: 'n' :: 'e' :: 'w' :: 'e' :: 'r' :: x :: [y] =>
        if !("aBcm".toList.contains x ∧ "aBcmt".toList.contains y) then
          stop 1 ("unknown predicate \x60".toList ++ t ++ ['\''])
        else
          let a ← argument
          if y = 't' then
            match dateOf? (← get).now a with
            | some time => return .newer time
            | none =>
              stop 1 ("I cannot figure out how to interpret ".toList ++ quoted a ++ " as a date or time".toList)
          else return .newer (← findReference a).time
      | _ => stop 1 ("unknown predicate \x60".toList ++ t ++ ['\''])
where
  deeply : FindReader FindTest := do
    modify fun s => { s with depthFirst := true }
    return .always true

def isBetween (t : Octets) : Bool :=
  ["-o", "-or", "-a", "-and", ","].any (·.toList == t)

def findPrimary : FindReader FindTest := do
  let s ← get
  match s.rest with
  | [] => stop 1 "expected an expression".toList
  | t :: rest =>
    set { s with rest }
    if isBetween t then
      stop 1 ("invalid expression; you have used a binary operator '".toList ++ t ++
        "' with nothing before it.".toList)
    else if t = ['('] then
      match rest with
      | [')'] :: _ => stop 1 "invalid expression; empty parentheses are not allowed.".toList
      | _ =>
        let e ← deeper
        match (← get).rest with
        | [')'] :: rest =>
          modify fun s => { s with rest }
          return e
        | _ => stop 1 "invalid expression; I was expecting to find a ')' somewhere but did not see one.".toList
    else if t = [')'] then stop 1 "you have too many ')'".toList
    else if t.head? = some '-' ∧ t.length > 1 then findNamed t
    else stop 1 ("paths must precede expression: \x60".toList ++ t ++ ['\''])

def findNegated : (steps : Nat) → FindReader FindTest
  | 0 => findPrimary deeper
  | n + 1 => do
    match (← get).rest with
    | t :: rest =>
      if t = ['!'] ∨ t = "-not".toList then
        if rest = [] then stop 1 ("expected an expression after '".toList ++ t ++ ['\''])
        modify fun s => { s with rest }
        return .negated (← findNegated n)
      else findPrimary deeper
    | [] => findPrimary deeper

/-- Go over an operator, which needs something behind it. -/
def passOperator (t : Octets) (rest : List Octets) : FindReader Unit := do
  if rest = [] then stop 1 ("expected an expression after '".toList ++ t ++ ['\''])
  modify fun s => { s with rest }

def findAll : (steps : Nat) → FindReader FindTest
  | 0 => findNegated deeper 0
  | n + 1 => do
    let first ← findNegated deeper n
    match (← get).rest with
    | [] => return first
    | t :: rest =>
      if t = "-o".toList ∨ t = "-or".toList ∨ t = [')'] ∨ t = [','] then return first
      else
        if t = "-a".toList ∨ t = "-and".toList then passOperator t rest
        return .both first (← findAll n)

def findAny : (steps : Nat) → FindReader FindTest
  | 0 => findAll deeper 0
  | n + 1 => do
    let first ← findAll deeper n
    match (← get).rest with
    | t :: rest =>
      if t = "-o".toList ∨ t = "-or".toList then
        passOperator t rest
        return .either first (← findAny n)
      else return first
    | [] => return first

def findInOrder : (steps : Nat) → FindReader FindTest
  | 0 => findAny deeper 0
  | n + 1 => do
    let first ← findAny deeper n
    match (← get).rest with
    | [','] :: rest =>
      passOperator [','] rest
      return .inOrder first (← findInOrder n)
    | _ => return first

end

def findExpression : (depth : Nat) → FindReader FindTest
  | 0 => return .always true
  | n + 1 => do findInOrder (findExpression n) ((← get).rest.length + 5)

/-! ## Asking -/

structure FoundEntry where
  path : Octets
  root : Octets
  depth : Nat
  place : Place
  status : Status

/-- What going through the entries has come to. -/
structure Finding where
  back : List Octets := []
  pruned : Bool := false
  stopped : Bool := false
  code : Nat := 0
  /-- Paths for commands that take many, by the command and by the directory that it runs in, the last first. -/
  collected : List (Nat × List Octets × Option Octets × List Octets) := []

abbrev FindM := StateT Finding ShellM

def typeLetter (k : Kind) : Char := if k = .file then 'f' else kindLetter k

/-- A number of seconds with its fraction. -/
def secondsText (time : Int) : Octets :=
  Text.ofInt (time.fdiv 1000000) ++ '.' :: zeroPadded 10 ((time.fmod 1000000).toNat * 10000)

/-- What stands for a letter of a format, and whether it is a number. -/
def findFact (follows : Status → Option Status) (f : FoundEntry) (letter : Char) : Octets × Bool :=
  let s := f.status
  let number (n : Nat) : Octets × Bool := (Text.ofNat n, true)
  match letter with
  | 'p' => (f.path, false)
  | 'f' => (let n := lastName f.path; if n = [] then f.path else n, false)
  | 'h' =>
    let bare := stripSlashes f.path
    (if bare.contains '/' then
      (if bare = ['/'] then [] else (bare.reverse.dropWhile (· != '/')).drop 1 |>.reverse)
      else ['.'], false)
  | 'P' => ((f.path.drop f.root.length).dropWhile (· == '/'), false)
  | 'H' => (f.root, false)
  | 's' => number s.size
  | 'd' => number f.depth
  | 'b' => number (blockCount s * 2)
  | 'k' => number (blockCount s)
  | 'n' => number s.names
  | 'i' => number s.node
  | 'D' => number 54
  | 'F' => ("overlay".toList, false)
  | 'l' => (Octets.ofText s.target, false)
  | 'm' => (Mode.octalText 1 s.mode, true)
  | 'M' => (permissionText s, false)
  | 'u' => (accountName s.owner, false)
  | 'U' => number s.owner
  | 'g' => (groupName s.group, false)
  | 'G' => number s.group
  | 'y' => ([typeLetter s.kind], false)
  | 'Y' => ([match follows s with
      | some t => typeLetter t.kind
      | none => if s.kind = .link then 'N' else typeLetter s.kind], false)
  | 't' => (formatDate s.time "%a %b %e %H:%M:%S.%N0 %Y".toList, false)
  | 'a' => (formatDate s.time "%a %b %e %H:%M:%S.%N0 %Y".toList, false)
  | 'c' => (formatDate s.time "%a %b %e %H:%M:%S.%N0 %Y".toList, false)
  | 'S' => (['1'], false)
  | _ => ([], false)

/-- What a time conversion of a format stands for; seconds have a fraction. -/
def findTime (time : Int) (conversion : Char) : Octets :=
  let fraction := '.' :: zeroPadded 10 ((time.fmod 1000000).toNat * 10000)
  match conversion with
  | '@' => secondsText time
  | 'S' => formatDate time "%S".toList ++ fraction
  | 'T' => formatDate time "%T".toList ++ fraction
  | 'X' => formatDate time "%X".toList ++ fraction
  | '+' => formatDate time "%Y-%m-%d+%T".toList ++ fraction
  | c => formatDate time ['%', c]

/-- Write what has been found so far, before another program writes. -/
def flushFound : FindM Unit := do
  let s ← get
  set { s with back := [] }
  emit s.back.reverse.flatten

def writeFound (output : Option Nat) (o : Octets) : FindM Unit := do
  match output with
  | none => modify fun s => { s with back := o :: s.back }
  | some n => let _ ← writeTo n o

/-- Run a command in a directory, if one is given, and tell how it ended. -/
def runFound (dir : Option Octets) : List Octets → ShellM (Option Nat)
  | [] => return some 0
  | name :: args => do
    match ← launchNamed name args with
    | .error e =>
      grumble (quoted name ++ ": ".toList ++ e.wording.toList)
      return none
    | .ok l =>
      let workDir := (← shell).workDir
      match dir with
      | some dir =>
        match ← stat? dir with
        | .ok (place, _) => modifyShell fun p => { p with workDir := ⟨place, 0⟩ }
        | .error _ => pure ()
      | none => pure ()
      let ending ← startNamed l
      modifyShell fun p => { p with workDir }
      return some ending.status

/-- Run the commands that take many paths, with those that were collected for directories other than `dir`, or
with all. -/
def runCollected (dir : Option Octets) (all : Bool) : FindM Unit := do
  let s ← get
  let (kept, ready) := s.collected.partition fun (_, _, d, _) => !all && (d.isNone || d == dir)
  if ready ≠ [] then
    flushFound
    modify fun s => { s with collected := kept }
    for (_, words, dir, paths) in ready.reverse do
      let result ← runFound dir (words ++ paths.reverse)
      if result ≠ some 0 then modify fun s => { s with code := 1 }

def collect (id : Nat) (words : List Octets) (dir : Option Octets) (path : Octets) : FindM Unit := do
  let s ← get
  match s.collected.findIdx? fun (i, _, d, _) => i == id && d == dir with
  | some k =>
    set { s with collected := s.collected.modify k fun (i, w, d, paths) => (i, w, d, path :: paths) }
  | none => set { s with collected := (id, words, dir, [path]) :: s.collected }

def hasBits (test : BitTest) (bits mode : Nat) : Bool :=
  match test with
  | .exactly => mode == bits
  | .all => mode &&& bits == bits
  | .any => bits == 0 || mode &&& bits != 0

/-- The directory of an entry, and its name as seen from there. -/
def besides (path : Octets) : Octets × Octets :=
  let name := lastName path
  let dir := dirName path
  if name = ['/'] ∨ name = [] then (['/'], ['/']) else (dir, '.' :: '/' :: name)

/-- The line of an entry with all that is known of it. -/
def findLine (now : Int) (f : FoundEntry) : Octets :=
  let s := f.status
  padLeft 9 (Text.ofNat s.node) ++ ' ' :: padLeft 6 (Text.ofNat (blockCount s)) ++ ' ' :: permissionText s ++
    ' ' :: padLeft 3 (Text.ofNat s.names) ++ ' ' :: padRight 8 (accountName s.owner) ++ ' ' ::
    padRight 8 (groupName s.group) ++ ' ' :: padLeft 8 (Text.ofNat s.size) ++ ' ' ::
    shownTime now usualTimes s.time ++ ' ' :: escapedName (· == ' ') f.path ++
    (if s.kind = .link then " -> ".toList ++ Octets.ofText s.target else []) ++ ['\n']

section

variable (limits : FindLimits)

def askOf (f : FoundEntry) : FindTest → FindM Bool
  | .always answer => return answer
  | .name pattern ignoresCase =>
    let n := lastName f.path
    return holds pattern ignoresCase (if n = [] then ['/'] else n)
  | .path pattern ignoresCase => return holds pattern ignoresCase f.path
  | .linkName pattern ignoresCase =>
    return f.status.kind = .link && holds pattern ignoresCase (Octets.ofText f.status.target)
  | .regex r => return (Regex.matchAt r (.ofText none f.path)).isSome
  | .type letters crosses => do
    if !crosses then return letters.contains (typeLetter f.status.kind)
    else match ← status? (!limits.follows) f.path with
      | .ok s => return letters.contains (typeLetter s.kind)
      | .error _ => return letters.contains 'l'
  | .isEmpty => do
    match f.status.kind with
    | .dir => return ((← world).tree.children f.place).isEmpty
    | .file => return f.status.size = 0
    | _ => return false
  | .size order n unit => return compare ((f.status.size + unit - 1) / unit) n == order
  | .permissions test bits dirBits =>
    return hasBits test (if f.status.kind = .dir then dirBits else bits) f.status.mode
  | .newer time => return f.status.time > time
  | .changed order time span => return match order with
    | .lt => f.status.time < time
    | .gt => f.status.time > time
    | .eq => f.status.time > time && f.status.time ≤ time + span
  | .count what order n => return compare (what f.status) n == order
  | .nobody inGroup => return if inGroup then !(Host.groupNumbers.any fun (_, n) => n == f.status.group)
    else !(Host.accountNumbers.any fun (_, n) => n == f.status.owner)
  | .executable => return match f.status.kind with
    | .file => f.status.mode &&& World.runBits != 0
    | .characters => false
    | .pipe => false
    | _ => true
  | .print stop output => do
    writeFound output (f.path ++ [stop])
    return true
  | .printf format output => do
    let target ← status? true f.path
    let follows (_ : Status) : Option Status := target.toOption
    for part in format do
      match part with
      | .text o => writeFound output o
      | .fact marks width precision letter =>
        writeFound output (paddedPart marks width precision (findFact follows f letter))
      | .time _ c => writeFound output (findTime f.status.time c)
      | .stop => if output.isNone then flushFound
    return true
  | .list output => do
    writeFound output (findLine limits.now f)
    return true
  | .delete => do
    if f.path = ['.'] then return true
    else
      let done ← attempt ("cannot delete ".toList ++ quoted f.path) fun t dir =>
        t.removeEntry dir (if f.status.kind = .dir then .dir else .file) (pathText f.path)
      if !done then modify fun s => { s with code := 1 }
      return done
  | .prune => do
    modify fun s => { s with pruned := true }
    return true
  | .exec words inDir asks => do
    flushFound
    let (dir, path) : Option Octets × Octets :=
      if inDir then (let (d, p) := besides f.path; (some d, p)) else (none, f.path)
    let isWanted ← do
      if !asks then pure true
      else
        say 2 ("< ".toList ++ words.headD [] ++ " ... ".toList ++ f.path ++ " > ? ".toList)
        match (← shell).opened? 0 with
        | none => pure false
        | some n =>
          match ← takeLine n with
          | .ok line => pure (line.head?.any fun c => c == 'y' || c == 'Y')
          | .error _ => pure false
    if !isWanted then return false
    else
      let words := words.map fun w => replaceAll "\x7b\x7d".toList path (w.length + 1) w
      return (← runFound dir words) = some 0
  | .execAll id words inDir => do
    if inDir then
      let (dir, path) := besides f.path
      runCollected (some dir) false
      collect id words (some dir) path
    else collect id words none f.path
    return true
  | .quit => do
    modify fun s => { s with stopped := true }
    return true
  | .negated t => do return !(← askOf f t)
  | .both a b => do
    if ← askOf f a then
      if (← get).stopped then return true else askOf f b
    else return false
  | .either a b => do
    if ← askOf f a then return true
    else if (← get).stopped then return false else askOf f b
  | .inOrder a b => do
    let _ ← askOf f a
    if (← get).stopped then return true else askOf f b
where
  holds (pattern : Octets) (ignoresCase : Bool) (o : Octets) : Bool :=
    let fold (o : Octets) : Octets := if ignoresCase then o.map Char.toLower else o
    Pattern.isMatch (Pattern.items true ((fold pattern).map (·, true))) (fold o)

/-- What is known of an entry; a link that is followed counts as what it leads to, if that is there. -/
def foundAt (follows : Bool) (path : Octets) : ShellM (Except OsError (Place × Status)) := do
  let own ← statLink? path
  let target ← stat? path
  let found := if follows && target.isOk then target else own
  let w ← world
  return found.map fun (place, e) => (place, w.statusOf place e)

def visit (e : FindTest) : (steps : Nat) → FoundEntry → FindM Unit
  | 0, _ => return
  | n + 1, f => do
    if (← get).stopped then return
    else
      let ask : FindM Unit := do
        if limits.least ≤ f.depth then let _ ← askOf limits f e
      modify fun s => { s with pruned := false }
      if !limits.depthFirst then ask
      let pruned := (← get).pruned && !limits.depthFirst
      if f.status.kind = .dir && !pruned && f.depth < limits.most then
        for (name, _) in (← world).tree.children f.place do
          let path := below f.path (Octets.ofText name)
          match ← foundAt limits.follows path with
          | .ok (place, status) => visit e n ⟨path, f.root, f.depth + 1, place, status⟩
          | .error _ => pure ()
      if limits.depthFirst && !(← get).stopped then ask

end

def find : Utility := fun _ args => do
  let options := args.takeWhile fun a => ["-P", "-L", "-H"].any (·.toList == a) || "-O".toList.isPrefixOf a
  let args := args.drop options.length
  let args := if args.head? = some "--".toList then args.drop 1 else args
  let roots := args.takeWhile fun a => !isFindStart true a
  let words := args.drop roots.length
  let start : FindLimits := {
    rest := words, now := (← world).now
    follows := options.reverse.head? = some "-L".toList
    followsTop := options.reverse.head? = some "-H".toList }
  let (e, limits) ← if words = [] then pure (FindTest.always true, start)
    else (findExpression (words.length + 1)).run start
  match limits.rest with
  | t :: _ =>
    if t = [')'] then stop 1 "you have too many ')'".toList
    else stop 1 ("paths must precede expression: \x60".toList ++ t ++ ['\''])
  | [] =>
    let e := if e.acts then e else .both e (.print '\n' none)
    let start (root : Octets) : FindM Unit := do
      if (← get).stopped then return
      match ← foundAt (limits.follows || limits.followsTop) root with
      | .error err =>
        grumble (quoted root ++ ": ".toList ++ err.wording.toList)
        modify fun s => { s with code := 1 }
      | .ok (place, status) => visit limits e (maxDepth + 1) ⟨root, root, 0, place, status⟩
    let all : FindM Unit := do
      (if roots = [] then [['.']] else roots).forM start
      flushFound
      runCollected none true
    let (_, s) ← all.run {}
    return s.code

end KarelBuild.Shell.Utility
