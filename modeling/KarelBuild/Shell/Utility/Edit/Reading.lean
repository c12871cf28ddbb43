import KarelBuild.Shell.Utility.Edit.Basic

/-!
# Reading editing scripts

A command is an address or two, an exclamation mark, a letter and what that letter takes. What is
wrong is told with the number of characters up to there.
-/

namespace KarelBuild.Shell.Edit

/-- A mistake, and how much of the script is unread where it shows; none for one of the whole. -/
structure Mistake where
  message : Octets
  unread : Option Nat

structure Script where
  rest : Octets
  extended : Bool
  /-- Whether lines end where lines of text do, so that an expression can tell them apart. -/
  hasLines : Bool
  /-- Blocks that are open, by the places of their commands. -/
  blocks : List Nat := []
  commands : Array Command := #[]

abbrev ReadEdit := EStateM Mistake Script

def fail {α : Type} (message : String) : ReadEdit α := do
  throw ⟨message.toList, some (← get).rest.length⟩

def peek : ReadEdit (Option Char) := do return (← get).rest.head?

def skip (n : Nat) : ReadEdit Unit := modify fun s => { s with rest := s.rest.drop n }

def takeFront (p : Char → Bool) : ReadEdit Octets := do
  let t := (← get).rest.takeWhile p
  skip t.length
  return t

def isSpace (c : Char) : Bool := c == ' ' || ('\t' ≤ c && c ≤ '\r')

def isBlank (c : Char) : Bool := c == ' ' || c == '\t'

def skipBlanks : ReadEdit Unit := do
  let _ ← takeFront isBlank

def takeNumber : ReadEdit Nat := do return Utility.digitsValue (← takeFront Char.isDigit)

/-! ## Text up to a delimiter -/

/-- How long a list between brackets is, from what stands behind the opening one. -/
def listLength : (steps : Nat) → (first : Bool) → Octets → Option Nat
  | 0, _, _ => none
  | n + 1, first, t =>
    match t with
    | [] => none
    | '\n' :: _ => none
    | '^' :: r => if first ∧ r.head? = some ']' then (listLength n false (r.drop 1)).map (· + 2)
      else (listLength n false r).map (· + 1)
    | ']' :: r => if first then (listLength n false r).map (· + 1) else some 1
    | '[' :: c :: r =>
      if [':', '.', '='].contains c then
        let name := r.takeWhile (· != c)
        match r.drop name.length with
        | _ :: ']' :: r' => (listLength n false r').map (· + name.length + 4)
        | _ => none
      else (listLength n false (c :: r)).map (· + 1)
    | _ :: r => (listLength n false r).map (· + 1)

/-- Characters that are written by a backslash and a letter. -/
def letterEscapes : List (Char × Char) :=
  [('a', '\x07'), ('f', '\x0c'), ('n', '\n'), ('r', '\r'), ('t', '\t'), ('v', '\x0b')]

/-- A character that is written by a backslash and what stands here, its number or the key for it. -/
def numbered? (t : Octets) : Option (Char × Octets) :=
  let number (base most : Nat) (isDigit : Char → Bool) (r : Octets) : Option (Char × Octets) :=
    let ds := (r.take most).takeWhile isDigit
    if ds = [] then none else some (byteOf base ds, r.drop ds.length)
  match t with
  | 'x' :: r => number 16 2 isHexDigit r
  | 'o' :: r => number 8 3 isOctalDigit r
  | 'd' :: r => number 10 3 Char.isDigit r
  | 'c' :: c :: r => some (Char.ofNat (c.toUpper.toNat ^^^ 0x40), r)
  | _ => none

/-- A list between brackets, in which some characters may be written by a backslash and a letter. -/
def listText : Octets → Octets
  | '\\' :: c :: r =>
    match letterEscapes.lookup c with
    | some d => d :: listText r
    | none => '\\' :: listText (c :: r)
  | c :: r => c :: listText r
  | [] => []

/-- Characters that mean something in an expression and stand for themselves behind a backslash. -/
def isRegexMark (extended : Bool) (c : Char) : Bool :=
  "$*.[\\]^".toList.contains c || (extended && "+?()\x7b\x7d|".toList.contains c)

/-- The text up to a delimiter, which may stand in a list between brackets; a backslash in front of the
delimiter goes. In an expression `\n` is a line end. -/
def delimited (extended : Bool) (d : Char) (isRegex : Bool) : (steps : Nat) → Octets → Octets →
    Option (Octets × Octets)
  | 0, _, _ => none
  | _, _, [] => none
  | n + 1, back, c :: r =>
    if c = d then some (back.reverse, r)
    else if c = '\n' ∧ isRegex then none
    else if c = '\\' then
      match r with
      | [] => none
      | e :: r' =>
        if e = d then delimited extended d isRegex n (e :: back) r'
        else if !isRegex then
          if e = 't' then delimited extended d isRegex n ('\t' :: back) r'
          else delimited extended d isRegex n (e :: '\\' :: back) r'
        else match letterEscapes.lookup e, numbered? r with
          | some x, _ => delimited extended d isRegex n (x :: back) r'
          | none, some (x, rest) =>
            delimited extended d isRegex n (if isRegexMark extended x then x :: '\\' :: back else x :: back) rest
          | none, none => delimited extended d isRegex n (e :: '\\' :: back) r'
    else if c = '[' ∧ isRegex then
      match listLength (r.length + 1) true r with
      | some k => delimited extended d isRegex n ((listText (r.take k)).reverse ++ c :: back) (r.drop k)
      | none => none
    else delimited extended d isRegex n (c :: back) r

def takeDelimited (d : Char) (isRegex : Bool) (message : String) : ReadEdit Octets := do
  let s ← get
  match delimited s.extended d isRegex (s.rest.length + 1) [] s.rest with
  | some (t, rest) =>
    set { s with rest }
    return t
  | none =>
    let line := s.rest.takeWhile (· != '\n')
    set { s with rest := if isRegex then s.rest.drop line.length else [] }
    fail message

def regexOf (t : Octets) (ignoresCase multiline : Bool) : ReadEdit (Option Regex) := do
  if t = [] then
    if ignoresCase ∨ multiline then fail "no previous regular expression" else return none
  else
    let s ← get
    let source : Regex.Source := {
      extended := s.extended, ignoresCase, multiline := multiline && s.hasLines, withinLines := multiline, rest := t }
    match Regex.ofSource? source with
    | .ok (r, _) => return some r
    | .error e => fail e

/-! ## Addresses -/

/-- An expression up to a delimiter, and what may stand behind it. -/
def addressRegex (d : Char) : ReadEdit (Option Regex) := do
  let t ← takeDelimited d true "unterminated address regex"
  let flags ← takeFront fun c => c == 'I' || c == 'M'
  regexOf t (flags.contains 'I') (flags.contains 'M')

def address? : ReadEdit (Option Address) := do
  match ← peek with
  | none => return none
  | some c =>
    if c.isDigit then
      let n ← takeNumber
      skipBlanks
      if (← peek) = some '~' then
        skip 1
        return some (.step n (← takeNumber))
      else return some (.line n)
    else if c = '$' then
      skip 1
      return some .last
    else if c = '/' then
      skip 1
      return some (.regex (← addressRegex c))
    else return none

/-- An address with a delimiter of its own. -/
def customAddress? : ReadEdit (Option Address) := do
  match (← get).rest with
  | '\\' :: d :: r =>
    modify fun s => { s with rest := r }
    return some (.regex (← addressRegex d))
  | _ => address?

def rangeEnd : ReadEdit RangeEnd := do
  skipBlanks
  match ← peek with
  | some '+' =>
    skip 1
    return .after (← takeNumber)
  | some '~' =>
    skip 1
    return .multiple (← takeNumber)
  | _ =>
    match ← customAddress? with
    | some a => return .address a
    | none =>
      skip 1
      fail "unexpected \x60,'"

/-! ## What letters take -/

/-- The end of a command: a line end, a semicolon, a closing brace that is left, or a comment. -/
def endCommand : ReadEdit Unit := do
  skipBlanks
  match ← peek with
  | none => return
  | some c =>
    if c = '\n' ∨ c = ';' then skip 1
    else if c = '\x7d' ∨ c = '#' then return
    else
      skip 1
      fail "extra characters after command"

/-- A label up to a semicolon or the end of the line. -/
def label : ReadEdit Octets := do
  skipBlanks
  let t ← takeFront fun c => c != '\n' && c != ';'
  skip 1
  return (t.reverse.dropWhile isSpace).reverse

def fileName : ReadEdit Octets := do
  skipBlanks
  let t ← takeFront (· != '\n')
  skip 1
  if t = [] then fail "missing filename in r/R/w/W commands" else return t

/-- Text up to the end of a line without a backslash before it; backslashes go. -/
def textFrom : (steps : Nat) → Octets → Octets × Octets
  | 0, t => ([], t)
  | _, [] => ([], [])
  | n + 1, c :: r =>
    if c = '\n' then ([], r)
    else if c = '\\' then
      match r with
      | d :: r' => ((d :: (textFrom n r').1), (textFrom n r').2)
      | [] => ([], [])
    else ((c :: (textFrom n r).1), (textFrom n r).2)

/-- The text of a command that adds lines: behind a backslash and a line end, or right behind it. -/
def addedText : ReadEdit Octets := do
  skipBlanks
  let s ← get
  if s.rest = [] then fail "expected \\ after \x60a', \x60c' or \x60i'"
  else
    let rest := match s.rest with
      | '\\' :: r =>
        let behind := r.dropWhile isBlank
        match behind with
        | '\n' :: more => more
        | _ => r
      | r => r
    let (t, rest) := textFrom (rest.length + 1) rest
    set { s with rest }
    return t ++ ['\n']

/-- The pieces of a replacement. -/
def piecesOf : (steps : Nat) → Octets → List Piece
  | 0, _ => []
  | _, [] => []
  | n + 1, '\\' :: c :: r =>
    if c.isDigit then .group (c.toNat - 48) :: piecesOf n r
    else if "ULEul".toList.contains c then .case_ c :: piecesOf n r
    else if c = 'n' then .text ['\n'] :: piecesOf n r
    else .text [c] :: piecesOf n r
  | n + 1, '&' :: r => .group 0 :: piecesOf n r
  | n + 1, c :: r =>
    match piecesOf n r with
    | .text o :: more => .text (c :: o) :: more
    | more => .text [c] :: more

/-- The replacement of a substitution, in which the delimiter may stand behind a backslash. -/
def replacement (d : Char) : (steps : Nat) → Octets → Octets → Option (Octets × Octets)
  | 0, _, _ => none
  | _, _, [] => none
  | n + 1, back, c :: r =>
    if c = d then some (back.reverse, r)
    else if c = '\\' then
      match r with
      | [] => none
      | e :: r' =>
        if e = d ∧ e ≠ '&' then replacement d n (e :: back) r'
        else match if e = 'n' then none else letterEscapes.lookup e, numbered? r with
          | some x, _ => replacement d n (x :: back) r'
          | none, some (x, rest) =>
            replacement d n (if x = '&' ∨ x = '\\' then x :: '\\' :: back else x :: back) rest
          | none, none => replacement d n (e :: '\\' :: back) r'
    else replacement d n (c :: back) r

structure SubstitutionFlags where
  all : Bool := false
  prints : Bool := false
  ignoresCase : Bool := false
  multiline : Bool := false
  runs : Bool := false
  number : Option Nat := none
  file : Option Octets := none

def substitutionFlags : (steps : Nat) → SubstitutionFlags → ReadEdit SubstitutionFlags
  | 0, f => return f
  | n + 1, f => do
    match ← peek with
    | none => return f
    | some c =>
      if c = '\x7d' ∨ c = '#' then return f
      else
        skip 1
        if c = 'g' then
          if f.all then fail "multiple \x60g' options to \x60s' command"
          else substitutionFlags n { f with all := true }
        else if c = 'p' then
          if f.prints then fail "multiple \x60p' options to \x60s' command"
          else substitutionFlags n { f with prints := true }
        else if c = 'i' ∨ c = 'I' then substitutionFlags n { f with ignoresCase := true }
        else if c = 'm' ∨ c = 'M' then substitutionFlags n { f with multiline := true }
        else if c = 'e' then substitutionFlags n { f with runs := true }
        else if c.isDigit then
          let ds ← takeFront Char.isDigit
          let k := Utility.digitsValue (c :: ds)
          if k = 0 then fail "number option to \x60s' command may not be zero"
          else if f.number.isSome then fail "multiple number options to \x60s' command"
          else substitutionFlags n { f with number := some k }
        else if c = 'w' then return { f with file := some (← fileName) }
        else if c = '\n' ∨ c = ';' then return f
        else if isBlank c then substitutionFlags n f
        else fail "unknown option to \x60s'"

def substitution : ReadEdit Action := do
  let unterminated := "unterminated \x60s' command"
  match ← peek with
  | none => fail unterminated
  | some d =>
    skip 1
    let pattern ← takeDelimited d true unterminated
    let s ← get
    match replacement d (s.rest.length + 1) [] s.rest with
    | none =>
      set { s with rest := [] }
      fail unterminated
    | some (t, rest) =>
      set { s with rest }
      let flags ← substitutionFlags (rest.length + 1) {}
      let regex ← regexOf pattern flags.ignoresCase flags.multiline
      let pieces := piecesOf (t.length + 1) t
      let groups := (regex.map Regex.groupCount).getD 9
      match pieces.find? fun p => match p with
        | .group n => groups < n
        | _ => false with
      | some (.group n) => fail ("invalid reference \\" ++ toString n ++ " on \x60s' command's RHS")
      | _ =>
        return .substitute {
          regex, pieces, all := flags.all, prints := flags.prints, runs := flags.runs, number := flags.number.getD 1
          file := flags.file }

/-- The characters of one side of a translation, escapes undone. -/
def translated : Octets → List Char
  | '\\' :: 'n' :: r => '\n' :: translated r
  | '\\' :: c :: r => if c = '\\' then '\\' :: translated r else '\\' :: c :: translated r
  | c :: r => c :: translated r
  | [] => []

def translation : ReadEdit Action := do
  let unterminated := "unterminated \x60y' command"
  match ← peek with
  | none => fail unterminated
  | some d =>
    skip 1
    let side : ReadEdit (List Char) := do
      let s ← get
      match delimited s.extended d false (s.rest.length + 1) [] s.rest with
      | some (t, rest) =>
        set { s with rest }
        return translated t
      | none =>
        set { s with rest := [] }
        fail unterminated
    let first ← side
    let second ← side
    if first.length ≠ second.length then fail "strings for \x60y' command are different lengths"
    else
      endCommand
      return .translate (first.zip second)

/-! ## Commands -/

def plainAction? (c : Char) : Option Action :=
  match c with
  | 'd' => some .delete
  | 'D' => some .deleteLine
  | 'p' => some .print
  | 'P' => some .printLine
  | 'n' => some .next
  | 'N' => some .nextAppended
  | 'g' => some (.take false)
  | 'G' => some (.take true)
  | 'h' => some (.keep false)
  | 'H' => some (.keep true)
  | 'x' => some .exchange
  | '=' => some .number
  | 'z' => some .empty
  | 'F' => some .fileName
  | _ => none

def addCommand (c : Command) : ReadEdit Unit := modify fun s => { s with commands := s.commands.push c }

/-- Close the block that was opened last: its first command gets to know its size. -/
def closeBlock : ReadEdit Unit := do
  let s ← get
  match s.blocks with
  | [] => fail "unexpected \x60\x7d'"
  | start :: blocks =>
    let size := s.commands.size - start
    set { s with
      blocks
      commands := s.commands.modify start fun c => { c with action := .block size } }
    addCommand { action := .closing }
    endCommand

def action (c : Command) (letter : Char) : ReadEdit Unit := do
  let add (a : Action) : ReadEdit Unit := addCommand { c with action := a }
  match plainAction? letter with
  | some a =>
    endCommand
    add a
  | none =>
    match letter with
    | '\x7b' =>
      modify fun s => { s with blocks := s.commands.size :: s.blocks }
      add (.block 0)
    | 'a' => add (.append (← addedText))
    | 'i' => add (.insert (← addedText))
    | 'c' => add (.change (← addedText))
    | 'b' => add (.jump (← label))
    | 't' => add (.jumpIfChanged true (← label))
    | 'T' => add (.jumpIfChanged false (← label))
    | 'r' => add (.readFile (← fileName))
    | 'w' => add (.writeFile (← fileName))
    | 's' => add (← substitution)
    | 'y' => add (← translation)
    | 'R' => add (.readFileLine (← fileName))
    | 'W' => add (.writeFirstLine (← fileName))
    | 'e' =>
      skipBlanks
      let t ← takeFront (· != '\n')
      skip 1
      add (.run t)
    | 'v' =>
      let _ ← label
    | 'l' =>
      skipBlanks
      let ds ← takeFront Char.isDigit
      endCommand
      add (.display (if ds = [] then none else some (Utility.digitsValue ds)))
    | 'q' =>
      if c.last.isSome then fail "command only uses one address"
      skipBlanks
      let code ← takeNumber
      endCommand
      add (.quit true code)
    | 'Q' =>
      if c.last.isSome then fail "command only uses one address"
      skipBlanks
      let code ← takeNumber
      endCommand
      add (.quit false code)
    | '#' => fail "comments don't accept any addresses"
    | letter => fail ("unknown command: \x60" ++ String.singleton letter ++ "'")

/-- A command with its addresses. -/
def command : ReadEdit Unit := do
  let first ← customAddress?
  skipBlanks
  let last ← if first.isSome && (← peek) == some ',' then do
      skip 1
      pure (some (← rangeEnd))
    else pure none
  let fromZero := match first, last with
    | some (.line 0), some (.address (.regex _)) => true
    | _, _ => false
  if !fromZero then
    if let some (.line 0) := first then
      skip 1
      fail "invalid usage of line address 0"
  skipBlanks
  let mark ← takeFront fun c => c == '!' || isBlank c
  if mark.countP (· == '!') > 1 then fail "multiple \x60!'s"
  let negated := mark.contains '!'
  match ← peek with
  | none => fail "missing command"
  | some letter =>
    skip 1
    if letter = '\x7d' then
      if first.isSome then fail "\x7d doesn't want any addresses" else closeBlock
    else if letter = ':' then
      if first.isSome then fail ": doesn't want any addresses"
      else
        let name ← label
        if name = [] then fail "\":\" lacks a label" else addCommand { action := .label, labelName := name }
    else action { first, last, fromZero, negated, action := .closing } letter

def commands : (steps : Nat) → ReadEdit Unit
  | 0 => return
  | n + 1 => do
    let _ ← takeFront fun c => isSpace c || c == ';'
    match ← peek with
    | none => return
    | some '#' =>
      let _ ← takeFront (· != '\n')
      commands n
    | some _ =>
      command
      commands n

/-- A whole script, or what is wrong with it. -/
def script (extended hasLines : Bool) (t : Octets) : Except Mistake (Array Command) :=
  let reading : ReadEdit Unit := do
    commands (t.length + 1)
    if (← get).blocks ≠ [] then throw ⟨"unmatched \x60\x7b'".toList, none⟩
  match reading { rest := t, extended, hasLines } with
  | .ok _ s => .ok s.commands
  | .error m _ => .error m

end KarelBuild.Shell.Edit
