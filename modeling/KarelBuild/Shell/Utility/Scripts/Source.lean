import KarelBuild.Shell.Utility.Scripts.Value

/-!
# The text of a script

What is left to read of a script, with the names that are known where it is read. Text between marks is taken as
it stands; what it means depends on the marks.
-/

namespace KarelBuild.Shell.Scripts

/-- A script up to where it has been read. -/
structure Source where
  rest : Text
  file : Octets
  /-- The line that the text begins in, and how many line ends it had then. -/
  first : Nat := 1
  total : Nat := 0
  package : Text := "main".toList
  scope : List ((Sigil × Text) × Binding) := []
  /-- Variables that will be known behind the statement. -/
  pending : List ((Sigil × Text) × Binding) := []
  names : Nat := 0
  /-- Functions that have been named, by their full names. -/
  known : List Text := []
  /-- Functions of modules by the names that they have here. -/
  imports : List (Text × String) := []
  strictNames : Bool := false
  strictWords : Bool := false
  canSay : Bool := false
  hasSignatures : Bool := false
  complaints : List Octets := []
  early : List Node := []
  last : List Node := []
  definitions : List Definition := []
  data : Option Octets := none

abbrev ReadM := EStateM Octets Source

def lineEnds (t : Text) : Nat := t.foldl (fun n c => if c = '\n' then n + 1 else n) 0

def Source.line (s : Source) : Nat := s.first + (s.total - lineEnds s.rest)

def setRest (t : Text) : ReadM Unit := modify fun s => { s with rest := t }

/-- Where something is in a script, as complaints say it. -/
def placeText (file : Octets) (line : Nat) : Octets := " at ".toList ++ file ++ " line ".toList ++ Text.ofNat line

def hereText : ReadM Octets := do
  let s ← get
  return placeText s.file s.line

/-- What follows here is not what a script may hold. -/
def fault {α : Type} : ReadM α := do
  let s ← get
  let line := s.rest.takeWhile (· != '\n')
  let rest := s.rest.drop line.length
  let near := if s.rest = [] then "at EOF".toList else "near \"".toList ++ line ++ rest.take 1 ++ ['"']
  throw ("syntax error".toList ++ (← hereText) ++ ", ".toList ++ near ++ ['\n'])

def faultOf {α : Type} (message : Octets) : ReadM α := do throw (message ++ (← hereText) ++ ".\n".toList)

/-- Note a mistake; reading goes on. -/
def complainHere (message : Octets) : ReadM Unit := do
  let here ← hereText
  modify fun s => { s with complaints := s.complaints ++ [message ++ here ++ ".\n".toList] }

/-! ## Blanks -/

def isBlankChar (c : Char) : Bool := c == ' ' || ('\t' ≤ c && c ≤ '\r')

/-- Go over blanks, notes up to the end of a line, and lines of documentation. -/
def withoutBlanks : (steps : Nat) → (atLineStart : Bool) → Text → Text
  | 0, _, t => t
  | _, _, [] => []
  | n + 1, atLineStart, c :: r =>
    if c = '\n' then withoutBlanks n true r
    else if isBlankChar c then withoutBlanks n false r
    else if c = '#' then withoutBlanks n false (r.dropWhile (· != '\n'))
    else if c = '=' ∧ atLineStart ∧ r.head?.any Char.isAlpha then
      withoutBlanks n true (behindNotes (r.length + 1) (c :: r))
    else c :: r
where
  behindNotes : Nat → Text → Text
    | 0, _ => []
    | _, [] => []
    | n + 1, t =>
      let rest := (t.dropWhile (· != '\n')).drop 1
      if "=cut".toList.isPrefixOf t then rest else behindNotes n rest

def skipBlanks : ReadM Unit := modify fun s => { s with rest := withoutBlanks (s.rest.length + 1) false s.rest }

/-- What follows behind blanks. -/
def peek : ReadM Text := do
  skipBlanks
  return (← get).rest

def isNameStart (c : Char) : Bool := c.isAlpha || c == '_'

def isNameChar (c : Char) : Bool := c.isAlphanum || c == '_'

/-- A name at the front of a text, whose parts are set apart by colons, and what follows. -/
def nameIn (t : Text) : Text × Text := go (t.length + 1) t
where
  go : Nat → Text → Text × Text
    | 0, t => ([], t)
    | n + 1, t =>
      let part := t.takeWhile isNameChar
      let rest := t.drop part.length
      match rest with
      | ':' :: ':' :: r =>
        if r.head?.any isNameChar then
          let (more, rest) := go n r
          (part ++ ':' :: ':' :: more, rest)
        else if part = [] then ([], t)
        else (part ++ "::".toList, r)
      | _ => (part, rest)

/-- A name that stands here, if one does; it is not taken. -/
def wordHere : ReadM (Option (Text × Text)) := do
  let t ← peek
  if t.head?.any isNameStart then return some (nameIn t) else return none

/-- Take a mark if it stands here. -/
def accept (mark : String) : ReadM Bool := do
  let t ← peek
  if mark.toList.isPrefixOf t then
    setRest (t.drop mark.length)
    return true
  else return false

def expect (mark : String) : ReadM Unit := do if !(← accept mark) then fault

/-- Take a word if it stands here. -/
def acceptWord (word : String) : ReadM Bool := do
  match ← wordHere with
  | some (w, rest) =>
    if w = word.toList then
      setRest rest
      return true
    else return false
  | none => return false

/-- Whether what follows is a name and then an arrow, so that the name is a text. -/
def isArrowNext (rest : Text) : Bool :=
  "=>".toList.isPrefixOf (withoutBlanks (rest.length + 1) false rest)

/-! ## Marks -/

/-- The mark that ends what a mark begins. -/
def closing (c : Char) : Char :=
  match c with
  | '(' => ')'
  | '[' => ']'
  | '\x7b' => '\x7d'
  | '<' => '>'
  | c => c

/-- The text up to its closing mark, the last character first, and what follows. A mark of its own kind inside
opens another text; a backslash in front of a mark is kept only where brackets are the marks. -/
def upToMark (opens closes : Char) : (depth : Nat) → (back : Text) → Text → Option (Text × Text)
  | _, _, [] => none
  | d, back, ['\\'] => if d = 0 then none else some (back, [])
  | d, back, '\\' :: c :: r =>
    if c = closes ∧ opens = closes then upToMark opens closes d (c :: back) r
    else upToMark opens closes d (c :: '\\' :: back) r
  | d, back, c :: r =>
    if c = closes then
      match d with
      | 0 => some (back.reverse, r)
      | d + 1 => upToMark opens closes d (c :: back) r
    else if c = opens then upToMark opens closes (d + 1) (c :: back) r
    else upToMark opens closes d (c :: back) r

/-- The same, with every backslash kept. -/
def upToMarkRaw (opens closes : Char) : (depth : Nat) → (back : Text) → Text → Option (Text × Text)
  | _, _, [] => none
  | _, _, ['\\'] => none
  | d, back, '\\' :: c :: r => upToMarkRaw opens closes d (c :: '\\' :: back) r
  | d, back, c :: r =>
    if c = closes then
      match d with
      | 0 => some (back.reverse, r)
      | d + 1 => upToMarkRaw opens closes d (c :: back) r
    else if c = opens then upToMarkRaw opens closes (d + 1) (c :: back) r
    else upToMarkRaw opens closes d (c :: back) r

/-- Text between marks, of which the first stands here; `raw` keeps backslashes in front of the marks. -/
def marked (raw : Bool) : ReadM (Char × Text) := do
  match (← get).rest with
  | c :: r =>
    let found := if raw then upToMarkRaw c (closing c) 0 [] r else upToMark c (closing c) 0 [] r
    match found with
    | some (body, rest) =>
      setRest rest
      return (c, body)
    | none =>
      throw ("Can't find string terminator ".toList ++ (if closing c = '"' then "'\"'".toList else ['"', closing c, '"']) ++
        " anywhere before EOF".toList ++ (← hereText) ++ ".\n".toList)
  | [] => fault

/-- A text in which only a backslash in front of a backslash or of a mark means something. -/
def plainText (marks : List Char) : Text → Octets
  | '\\' :: c :: r => if c = '\\' ∨ marks.contains c then c :: plainText marks r else '\\' :: plainText marks (c :: r)
  | c :: r => c :: plainText marks r
  | [] => []

/-- Words with blanks between them. -/
def wordsIn (o : Octets) : List Octets :=
  let (back, word) := o.foldl (fun (back, word) c =>
    if isBlankChar c then (if word = [] then (back, []) else (word.reverse :: back, [])) else (back, c :: word))
    (([] : List Octets), ([] : Octets))
  (if word = [] then back else word.reverse :: back).reverse

/-- Read something in a text of its own that begins in a line. -/
def within {α : Type} (line : Nat) (text : Text) (m : ReadM α) : ReadM α := do
  let s ← get
  set { s with rest := text, first := line, total := lineEnds text }
  let a ← m
  modify fun t => { t with rest := s.rest, first := s.first, total := s.total }
  return a

/-! ## Documents -/

/-- Lines up to one that is a word, and what follows that line. -/
def documentIn (word : Text) (indented : Bool) : (steps : Nat) → (back : List Text) → Text →
    Option (List Text × Text)
  | 0, _, _ => none
  | n + 1, back, t =>
    let line := t.takeWhile (· != '\n')
    let rest := t.drop line.length
    let shown := if indented then line.dropWhile isBlankChar else line
    if shown = word then some (back.reverse, rest.drop 1)
    else if rest = [] then none
    else documentIn word indented n (line :: back) (rest.drop 1)

/-- Lines without the blanks that all of them begin with. -/
def outdented (lines : List Text) : List Text :=
  let width (t : Text) : Nat := (t.takeWhile isBlankChar).length
  let widths := (lines.filter fun t => t.any (!isBlankChar ·)).map width
  let least := widths.foldl min (widths.headD 0)
  lines.map (·.drop least)

/-- Take the lines of a document that begins behind this line. -/
def document (word : Text) (indented : Bool) : ReadM Text := do
  let t := (← get).rest
  let line := t.takeWhile (· != '\n')
  let behind := (t.drop line.length).drop 1
  match documentIn word indented (behind.length + 2) [] behind with
  | some (lines, rest) =>
    setRest (line ++ '\n' :: rest)
    return (if indented then outdented lines else lines).flatMap (· ++ ['\n'])
  | none => throw ("Can't find string terminator \"".toList ++ word ++ "\" anywhere before EOF".toList ++
      (← hereText) ++ ".\n".toList)

/-! ## Names -/

/-- Names that belong to the first package wherever they are used. -/
def isEverywhere (name : Text) : Bool :=
  !(name.head?.any isNameStart) || name.head? = some '^' ||
    ["ENV", "ARGV", "INC", "STDIN", "STDOUT", "STDERR", "ARGVOUT", "_"].any (·.toList == name)

def fullName (package name : Text) : Text :=
  if name.contains ':' then (if ':' = name.headD ' ' then "main".toList ++ name else name)
  else if isEverywhere name then "main::".toList ++ name
  else package ++ "::".toList ++ name

/-- The name of a function, which belongs to the package where it is used. -/
def functionName (name : Text) : ReadM Text := do return fullName (← get).package name

/-- A variable by its name. -/
def variableOf (s : Sigil) (name : Text) : ReadM Node := do
  let t ← get
  match t.scope.lookup (s, name) with
  | some (.own id) => return .own s name id
  | some (.global full) => return .global s full
  | none =>
    let isFree := name.contains ':' || isEverywhere name || name = ['a'] || name = ['b']
    if s ≠ .code && s ≠ .handle && t.strictNames && !isFree then
      let shown := s.mark :: name
      complainHere ("Global symbol \"".toList ++ shown ++
        "\" requires explicit package name (did you forget to declare \"my ".toList ++ shown ++ "\"?)".toList)
    return .global s (fullName t.package name)

/-- Begin a variable that is known behind this statement. -/
def declare (s : Sigil) (name : Text) : ReadM Node := do
  let t ← get
  set { t with names := t.names + 1, pending := ((s, name), .own t.names) :: t.pending }
  return .fresh s name t.names

def declareShared (s : Sigil) (name : Text) : ReadM Node := do
  let t ← get
  let full := fullName t.package name
  set { t with pending := ((s, name), .global full) :: t.pending }
  return .global s full

/-- Have the variables known that the statement began. -/
def introduce : ReadM Unit := modify fun s => { s with scope := s.pending ++ s.scope, pending := [] }

/-- Read something whose variables are forgotten behind it. -/
def inScope {α : Type} (m : ReadM α) : ReadM α := do
  let s ← get
  set { s with pending := [] }
  let a ← m
  modify fun t => { t with
    scope := s.scope, pending := s.pending, package := s.package, strictNames := s.strictNames
    strictWords := s.strictWords }
  return a

end KarelBuild.Shell.Scripts
