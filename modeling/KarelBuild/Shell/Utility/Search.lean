import KarelBuild.Shell.Utility.Search.Lines

/-!
# Searching files

`grep` shows the lines that match one of its patterns, or counts them, or names the files that have
them. Its exit code is 0 if a line was selected, 1 if none was and 2 after a mistake.
-/

namespace KarelBuild.Shell.Utility.Search

open ShellM

/-! ## Options -/

def searchForms : List OptionForm :=
  forms [('E', "extended-regexp"), ('F', "fixed-strings"), ('G', "basic-regexp"), ('P', "perl-regexp"),
    ('i', "ignore-case"), ('y', ""), ('v', "invert-match"), ('c', "count"), ('n', "line-number"),
    ('l', "files-with-matches"), ('L', "files-without-match"), ('o', "only-matching"), ('q', "quiet"),
    ('s', "no-messages"), ('w', "word-regexp"), ('x', "line-regexp"), ('h', "no-filename"),
    ('H', "with-filename"), ('r', "recursive"), ('R', "dereference-recursive"), ('b', "byte-offset"),
    ('a', "text"), ('z', "null-data"), ('I', ""), ('U', "binary"), ('q', "silent"), ('T', "initial-tab"),
    ('Z', "null"), ('\x01', "line-buffered"), ('\x02', "no-ignore-case"), ('\x03', "no-group-separator"),
    ('0', ""), ('1', ""), ('2', ""), ('3', ""), ('4', ""), ('5', ""), ('6', ""), ('7', ""), ('8', ""), ('9', "")]
    [('e', "regexp"), ('f', "file"), ('m', "max-count"), ('A', "after-context"), ('B', "before-context"),
      ('C', "context"), ('d', "directories"), ('D', "devices"), ('\x04', "include"), ('\x05', "exclude"),
      ('\x06', "exclude-from"), ('\x07', "exclude-dir"), ('\x0e', "binary-files"), ('\x0f', "label"),
      ('\x10', "group-separator"), ('X', "")] ++
    [⟨'\x11', "color", .maybe⟩, ⟨'\x11', "colour", .maybe⟩]

/-- One expression for several patterns. -/
def anyOf : List Regex → Regex
  | [] => .char fun _ => false
  | [r] => r
  | r :: rest => .either r (anyOf rest)

def searchUsage : String := " [OPTION]... PATTERNS [FILE]..."

def refuseSearch {α : Type} (code : Nat) : ShellM α := do
  say 2 ("Usage: ".toList ++ (← programName) ++ searchUsage.toList ++ ['\n'])
  say 2 ("Try '".toList ++ (← programName) ++ " --help' for more information.\n".toList)
  exit code

/-- The form of the patterns; options that ask for different ones exclude each other. -/
def formGiven (usual : Option Char) (g : Given) : ShellM Char := do
  if g.has 'X' then stop 2 ("invalid matcher ".toList ++ (g.value? 'X').getD [])
  let given := usual.toList ++ (g.options.map (·.1)).filter "EFGP".toList.contains
  match given with
  | [] => return 'G'
  | c :: rest => if rest.all (· == c) then return c else stop 2 "conflicting matchers specified".toList

/-- Whether case counts: the last option that says so. -/
def ignoresCase (g : Given) : Bool := match g.last? "iy\x02" with
  | some c => c != '\x02'
  | none => false

def patternRegex (g : Given) (form : Char) (t : Octets) : Except String (Regex × List String) := do
  let ignoresCase := ignoresCase g
  let (r, remarks) ←
    if form = 'F' then .ok (Regex.ofLiteral ignoresCase t, [])
    else if form = 'P' then (Regex.ofOrdered? ignoresCase t).map fun r => (r, [])
    else Regex.ofSource? { extended := form != 'G', ignoresCase, lenient := true, rest := t }
  return (if g.has 'x' then .both .textStart (.both r .textEnd)
    else if g.has 'w' then .both .offWordLeft (.both r .offWordRight) else r, remarks)

/-- The expression for all patterns that are given, and the operands that are files. -/
def patternsGiven (g : Given) (form : Char) : ShellM (Regex × List Octets) := do
  let lists ← g.options.filterMapM fun (c, v) => do
    if c = 'e' then return some (Text.split '\n' v)
    else if c = 'f' then
      match ← readOperand v with
      | .ok o => return some (linesOf o).1
      | .error e => stop 2 (v ++ ": ".toList ++ e.wording.toList)
    else return none
  let (patterns, files) ←
    if g.has 'e' || g.has 'f' then pure (lists.flatten, g.operands)
    else match g.operands with
      | p :: rest => pure (Text.split '\n' p, rest)
      | [] => refuseSearch 2
  if form = 'P' ∧ patterns.length > 1 then stop 2 "the -P option only supports a single pattern".toList
  match patterns.mapM (patternRegex g form) with
  | .error e => stop 2 e.toList
  | .ok rs =>
    for remark in rs.flatMap Prod.snd do grumble ("warning: " ++ remark).toList
    return (anyOf (rs.map Prod.fst), files)

/-- How many lines stand around a selected one, on a side. -/
def aroundGiven (g : Given) (side : Char) : ShellM (Option Nat) := do
  let number (v : Octets) : ShellM Nat := do
    if isNumber v then return digitsValue v else stop 2 (v ++ ": invalid context length argument".toList)
  for (c, v) in g.options do
    if "ABC".toList.contains c then let _ ← number v
  let digits := (g.options.map Prod.fst).filter Char.isDigit
  match g.value? side, g.value? 'C' with
  | some v, _ => return some (← number v)
  | none, some v => return some (← number v)
  | none, none => return if digits = [] then none else some (digitsValue digits)

/-- How many lines are selected at most. -/
def limitGiven (g : Given) : ShellM (Option Nat) := do
  match g.value? 'm' with
  | none => return none
  | some v =>
    let isNegative := v.head? = some '-'
    let ds := if isNegative then v.drop 1 else v
    if !isNumber ds then stop 2 "invalid max count".toList
    else return if isNegative then none else some (digitsValue ds)

/-- What is done with directories, and whether links below them are followed. -/
inductive Directories where
  | read
  | skip
  | descend (follows : Bool)
  deriving DecidableEq, Repr

def directoriesGiven (g : Given) : ShellM Directories := do
  match g.options.reverse.find? fun o => "drR".toList.contains o.1 with
  | none => return .read
  | some ('r', _) => return .descend false
  | some ('R', _) => return .descend true
  | some (_, v) =>
    match ["read", "recurse", "skip"].filter fun (w : String) => v.isPrefixOf w.toList with
    | ["read"] => return .read
    | ["recurse"] => return .descend false
    | ["skip"] => return .skip
    | _ => wrong v
where
  wrong (v : Octets) : ShellM Directories := do
    grumble ("invalid argument ".toList ++ quoted v ++ " for '--directories'".toList)
    say 2 "Valid arguments are:\n  - 'read'\n  - 'recurse'\n  - 'skip'\n".toList
    refuseSearch 1

def binaryGiven (g : Given) : ShellM BinaryFiles := do
  match g.options.reverse.find? fun o => o.1 == 'a' || o.1 == 'I' || o.1 == '\x0e' with
  | none => return .told
  | some ('a', _) => return .asText
  | some ('I', _) => return .withoutMatch
  | some (_, v) =>
    match String.ofList v with
    | "binary" => return .told
    | "text" => return .asText
    | "without-match" => return .withoutMatch
    | _ => stop 2 "unknown binary-files type".toList

/-! ## Which files -/

/-- A pattern for names of files, and whether they are to be searched or left out. -/
structure NameRule where
  includes : Bool
  pattern : Octets

def NameRule.fits (r : NameRule) (name : Octets) : Bool :=
  Pattern.isMatch (Pattern.items true (r.pattern.map (·, true))) name

/-- Whether a file is left out: as the last rule says that fits, or else the opposite of the first. -/
def isLeftOut (rules : List NameRule) (name : Octets) : Bool :=
  match rules.reverse.find? (·.fits name) with
  | some r => !r.includes
  | none => (rules.head?.map (·.includes)).getD false

/-- The rules for files, and those for directories. -/
def rulesGiven (g : Given) : ShellM (List NameRule × List NameRule) := do
  let files ← g.options.filterMapM fun (c, v) => do
    if c = '\x04' then return some [(⟨true, v⟩ : NameRule)]
    else if c = '\x05' then return some [(⟨false, v⟩ : NameRule)]
    else if c = '\x06' then
      match ← readOperand v with
      | .ok o => return some ((linesOf o).1.map fun l => (⟨false, l⟩ : NameRule))
      | .error e => stop 2 (v ++ ": ".toList ++ e.wording.toList)
    else return none
  let dirs := (g.options.filter (·.1 == '\x07')).map fun (_, v) => (⟨false, stripSlashes v⟩ : NameRule)
  return (files.flatten, dirs)

/-- What is searched, and how. -/
structure Request where
  style : Style
  directories : Directories := .read
  fileRules : List NameRule := []
  dirRules : List NameRule := []
  skipsDevices : Option Bool := none
  label : Option Octets := none

/-! ## Searching -/

/-- What has come of the search so far: whether lines were selected, whether something went wrong, and whether
any lines were shown. -/
structure Outcome where
  found : Bool := false
  failed : Bool := false
  used : Bool := false

abbrev SearchM := StateT Outcome ShellM

def complain (s : Style) (message : Octets) : SearchM Unit := do
  if !s.silent then grumble message
  modify fun o => { o with failed := true }

/-- The width of numbers, where they are to stand below each other. -/
def numberWidth (s : Style) (status : Option Status) : Nat :=
  if !s.tabbed then 0
  else
    let most := match status with
      | some f => if f.kind == .file then f.size + (if s.numbers then 1 else 0) else 0x7fffffffffffffff
      | none => 0x7fffffffffffffff
    (Text.ofNat most).length

/-- Whether a file is the one that is written to. -/
def isOutput (status : Option Status) : ShellM Bool := do
  match status, (← world).statusOfDescriptor? (← shell) 1 with
  | some f, some g => return f.kind == .file && g.kind == .file && f.node == g.node
  | _, _ => return false

/-- Whether all that is written is lost. -/
def isOutputLost : ShellM Bool := do
  match (← shell).opened? 1 with
  | none => return false
  | some n =>
    match ← targetOf n with
    | some (.device d) => return d == .null
    | _ => return false

/-- Search what is open. -/
def searchOpened (q : Request) (name : Octets) (status : Option Status) (n : Nat) : SearchM Unit := do
  let s := q.style
  let f : Subject := ⟨name, numberWidth s status⟩
  if s.showsLines && s.limit != some 1 && (← isOutput status) then
    complain s (name ++ ": input file is also the output".toList)
  else
    match ← searchStream s f (← get).used n with
    | .error e => complain s (name ++ ": ".toList ++ e.wording.toList)
    | .ok p =>
      modify fun o => { o with used := p.used, found := o.found || p.found > 0 }
      if p.found > 0 && s.quiet then exit 0
      match s.showing with
      | .lines =>
        if p.foundAsText.any (· < p.found) && s.binary == .told then
          grumble (name ++ ": binary file matches".toList)
      | .count =>
        if s.withNames then emit (nameText s name (some ':'))
        emit (Text.ofNat p.found ++ ['\n'])
      | .names wanted =>
        if (p.found > 0) = wanted then emit (nameText s name none ++ if s.nameEnd.isSome then [] else ['\n'])
      | .nothing => let _ ← eachBlock n (fun (_ : Unit) _ => return ((), false)) maxBlocks ()

def searchFile (q : Request) (path : Octets) (status : Status) : SearchM Unit := do
  match ← openPath path .reads with
  | .error e => complain q.style (path ++ ": ".toList ++ e.wording.toList)
  | .ok n => searchOpened q path (some status) n

/-- Search all files below a directory. -/
def searchBelow (q : Request) (follows : Bool) : (depth : Nat) → (path : Octets) → Place → SearchM Unit
  | 0, _, _ => return
  | n + 1, path, place => do
    for (k, _) in (← world).tree.children place do
      let name := Octets.ofText k
      let inner := if path = [] then name else below path name
      let own ← status? false inner
      let target ← status? true inner
      let found : Except OsError Status := match own with
        | .ok f => if f.kind == .link then (if follows then target else .ok f) else .ok f
        | .error e => .error e
      match found with
      | .error e => complain q.style (inner ++ ": ".toList ++ e.wording.toList)
      | .ok f =>
        match f.kind with
        | .dir =>
          if !isLeftOut q.dirRules name then
            match ← stat? inner with
            | .ok (place, _) => searchBelow q follows n inner place
            | .error _ => pure ()
        | .file => if !isLeftOut q.fileRules name then searchFile q inner f
        | .link => pure ()
        | _ => if q.skipsDevices = some false && !isLeftOut q.fileRules name then searchFile q inner f

/-- Search an operand: a dash is the standard input. -/
def searchOperand (q : Request) (operand : Octets) : SearchM Unit := do
  let s := q.style
  if operand = ['-'] then
    let name := q.label.getD "(standard input)".toList
    match (← shell).opened? 0 with
    | none => complain s (name ++ ": ".toList ++ OsError.badDescriptor.wording.toList)
    | some n =>
      if !isLeftOut q.fileRules ['-'] then
        searchOpened q name ((← world).statusOfDescriptor? (← shell) 0) n
  else
    match ← status? true operand with
    | .error e =>
      if !isLeftOut q.fileRules (lastName operand) then
        complain s (operand ++ ": ".toList ++ e.wording.toList)
    | .ok f =>
      if f.kind == .dir then
        if isLeftOut q.dirRules (lastName operand) then return
        else
          match q.directories with
          | .skip => return
          | .read =>
            if !isLeftOut q.fileRules (lastName operand) then
              complain s (operand ++ ": ".toList ++ OsError.isDirectory.wording.toList)
          | .descend follows =>
            match ← stat? operand with
            | .ok (place, _) => searchBelow q follows maxDepth operand place
            | .error e => complain s (operand ++ ": ".toList ++ e.wording.toList)
      else if isLeftOut q.fileRules (lastName operand) then return
      else if q.skipsDevices = some true && f.kind != .file then return
      else searchFile q operand f

def requestGiven (usual : Option Char) (g : Given) : ShellM (Request × List Octets) := do
  let form ← formGiven usual g
  let after ← aroundGiven g 'A'
  let before ← aroundGiven g 'B'
  let limit ← limitGiven g
  let directories ← directoriesGiven g
  let binary ← binaryGiven g
  let skipsDevices ← match g.value? 'D' with
    | none => pure none
    | some v =>
      if v = "read".toList then pure (some false)
      else if v = "skip".toList then pure (some true)
      else stop 2 "unknown devices method".toList
  let isColored ← match g.value? '\x11' with
    | none => pure false
    | some v =>
      if ["always", "yes", "force"].any (·.toList == v) then pure true
      else if ["", "never", "no", "none", "auto", "tty", "if-tty"].any (·.toList == v) then pure false
      else refuseSearch 2
  let (fileRules, dirRules) ← rulesGiven g
  let (regex, files) ← patternsGiven g form
  let isDeep := directories matches .descend _
  let isLost ← isOutputLost
  let showing : Showing :=
    if g.has 'q' || isLost then .nothing
    else match g.last? "lL" with
      | some c => .names (c == 'l')
      | none => if g.has 'c' then .count else .lines
  let separator : Option Octets := match g.last? "\x03\x10" with
    | some '\x03' => none
    | some _ => g.value? '\x10'
    | none => some ['-', '-']
  let style : Style := {
    regex, stop := if g.has 'z' then '\x00' else '\n', inverted := g.has 'v', showing
    onlyMatches := g.has 'o', numbers := g.has 'n', offsets := g.has 'b', tabbed := g.has 'T'
    withNames := match g.last? "hH" with
      | some c => c == 'H'
      | none => files.length > 1 || isDeep
    colored := isColored, nameEnd := if g.has 'Z' then some '\x00' else none, limit
    before := before.getD 0, after := after.getD 0
    separator := if before.isSome || after.isSome then separator else none
    binary, atOnce := g.has '\x01', quiet := g.has 'q', silent := g.has 's' }
  let q : Request := { style, directories, fileRules, dirRules, skipsDevices, label := g.value? '\x0f' }
  return (q, files)

def searchWith (usual : Option Char) : Utility := fun _ args => do
  let g ← readGivenWith searchUsage searchForms 2 true args
  let (q, files) ← requestGiven usual g
  if q.style.limit = some 0 then return 1
  let all : SearchM Unit :=
    match files, q.directories with
    | [], .descend follows => do
      match ← stat? ['.'] with
      | .ok (place, _) => searchBelow q follows maxDepth [] place
      | .error e => complain q.style (".: ".toList ++ e.wording.toList)
    | [], _ => searchOperand q ['-']
    | files, _ => files.forM (searchOperand q)
  let (_, o) ← all.run {}
  return if o.failed then 2 else if o.found then 0 else 1

/-- A search whose form of patterns is fixed goes by the general name. -/
def searchAs (form : Char) : Utility := fun m args => do
  modifyShell fun p => { p with name := "grep".toList }
  searchWith (some form) m args

def grep : Utility := searchWith none

def egrep : Utility := searchAs 'E'

def fgrep : Utility := searchAs 'F'

end KarelBuild.Shell.Utility.Search
