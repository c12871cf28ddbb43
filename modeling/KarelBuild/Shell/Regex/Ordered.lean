import KarelBuild.Shell.Regex.Reading

/-!
# Reading expressions whose alternatives have an order

Of alternatives in such an expression the first counts with which the rest matches. Repetitions may be sparing,
or settled; there are marks for what follows and for what stands before; groups may have names or only hold
pieces together, and switches change how the rest of a group is read.
-/

namespace KarelBuild.Shell.Regex

/-- The switches: whether case counts, whether a dot stands for the end of a line, whether the marks for the
ends of the text stand for those of lines, and whether blanks are left out. -/
structure Switches where
  ignoresCase : Bool := false
  dotAll : Bool := false
  multiline : Bool := false
  spaced : Bool := false

structure OrderedSource where
  rest : Text
  switches : Switches := {}
  opened : Nat := 0
  depth : Nat := 0
  names : List (Text × Nat) := []
  /-- The groups that are referred to, by their numbers or names. -/
  references : List (Nat ⊕ Text) := []

abbrev ReadOrdered := EStateM String OrderedSource

namespace Ordered

def isSpace (c : Char) : Bool := c == ' ' || ('\t' ≤ c && c ≤ '\r')

def isBlank (c : Char) : Bool := c == ' ' || c == '\t' || c == '\xa0'

def isBreak (c : Char) : Bool := ('\n' ≤ c && c ≤ '\r') || c == '\x85'

/-- The characters that a letter behind a backslash stands for. -/
def kind? : Char → Option (Char → Bool)
  | 'd' => some Char.isDigit
  | 'D' => some (!Char.isDigit ·)
  | 'w' => some isWordChar
  | 'W' => some (!isWordChar ·)
  | 's' => some isSpace
  | 'S' => some (!isSpace ·)
  | 'h' => some isBlank
  | 'H' => some (!isBlank ·)
  | 'v' => some isBreak
  | 'V' => some (!isBreak ·)
  | _ => none

def control? : Char → Option Char
  | 't' => some '\t'
  | 'n' => some '\n'
  | 'r' => some '\r'
  | 'f' => some '\x0c'
  | 'e' => some '\x1b'
  | 'a' => some '\x07'
  | _ => none

def setRest (t : Text) : ReadOrdered Unit := modify fun s => { s with rest := t }

def testFor (p : Char → Bool) : ReadOrdered Regex := do
  if (← get).switches.ignoresCase then return .char fun c => p c || p (otherCase c) else return .char p

def literal (c : Char) : ReadOrdered Regex := testFor (· == c)

def digitValue (c : Char) : Nat :=
  if c.isDigit then c.toNat - 48 else if c.isUpper then c.toNat - 55 else c.toNat - 87

def numberIn (base : Nat) (ds : Text) : Nat := ds.foldl (fun n c => n * base + digitValue c) 0

def isHex (c : Char) : Bool := c.isDigit || ('a' ≤ c && c ≤ 'f') || ('A' ≤ c && c ≤ 'F')

def isOctal (c : Char) : Bool := '0' ≤ c && c ≤ '7'

/-- The character of a number in braces. -/
def bracedChar (base : Nat) (isDigit : Char → Bool) (fault : String) (t : Text) : ReadOrdered Char := do
  let ds := t.takeWhile isDigit
  match t.drop ds.length with
  | '\x7d' :: rest =>
    if ds = [] then throw fault
    else if numberIn base ds > 255 then throw "character code point value in \\x\x7b\x7d or \\o\x7b\x7d is too large"
    else
      setRest rest
      return Char.ofNat (numberIn base ds)
  | _ => throw fault

/-- What a letter or digit behind a backslash stands for where it is a single character. -/
def escapedChar? (c : Char) : ReadOrdered (Option Char) := do
  let t := (← get).rest
  match c with
  | 'x' =>
    match t with
    | '\x7b' :: r => return some (← bracedChar 16 isHex "non-hex character in \\x\x7b\x7d (closing brace missing?)" r)
    | t =>
      let ds := (t.take 2).takeWhile isHex
      setRest (t.drop ds.length)
      return some (Char.ofNat (numberIn 16 ds))
  | 'o' =>
    match t with
    | '\x7b' :: r => return some (← bracedChar 8 isOctal "non-octal character in \\o\x7b\x7d (closing brace missing?)" r)
    | _ => throw "missing opening brace after \\o"
  | '0' =>
    let ds := (t.take 2).takeWhile isOctal
    setRest (t.drop ds.length)
    return some (Char.ofNat (numberIn 8 ds))
  | 'c' =>
    match t with
    | [] => throw "\\c at end of pattern"
    | d :: r =>
      setRest r
      return some (Char.ofNat (d.toUpper.toNat ^^^ 64))
  | c => return control? c

/-! ## Lists between brackets -/

/-- An item of a list, which may be a single character. -/
inductive ListItem where
  | one (c : Char)
  | many (p : Char → Bool)

/-- Characters up to a mark, which is passed over. -/
def upTo? (mark : Text) : Text → Option (Text × Text)
  | [] => none
  | c :: r => if mark.isPrefixOf (c :: r) then some ([], (c :: r).drop mark.length)
    else (upTo? mark r).map fun (t, rest) => (c :: t, rest)

def unended : String := "missing terminating ] for character class"

def listItem (c : Char) : ReadOrdered ListItem := do
  let t := (← get).rest
  if c = '\\' then
    match t with
    | [] => throw "\\ at end of pattern"
    | d :: r =>
      setRest r
      match kind? d with
      | some p => return .many p
      | none =>
        if d = 'b' then return .one '\x08'
        else if isOctal d ∧ d ≠ '0' then
          let ds := d :: (r.take 2).takeWhile isOctal
          setRest (r.drop (ds.length - 1))
          return .one (Char.ofNat (numberIn 8 ds % 256))
        else
          match ← escapedChar? d with
          | some e => return .one e
          | none => if d.isAlphanum then throw "unrecognized character follows \\" else return .one d
  else if c = '[' ∧ t.head? = some ':' then
    match upTo? ":]".toList (t.drop 1) with
    | none => return .one c
    | some (name, rest) =>
      let negated := name.head? = some '^'
      let name := if negated then name.drop 1 else name
      if !name.all Char.isAlpha then return .one c
      else
        match charClass? name with
        | none =>
          if name = "word".toList then
            setRest rest
            return .many fun c => isWordChar c != negated
          else throw "unknown POSIX class name"
        | some p =>
          setRest rest
          return .many fun c => p c != negated
  else return .one c

/-- The items of a list up to the bracket that ends it, as tests. -/
def listItems : (steps : Nat) → (first : Bool) → ReadOrdered (List (Char → Bool))
  | 0, _ => throw unended
  | n + 1, isFirst => do
    match (← get).rest with
    | [] => throw unended
    | ']' :: r =>
      if isFirst then
        setRest r
        return (· == ']') :: (← listItems n false)
      else
        setRest r
        return []
    | '\\' :: 'E' :: r =>
      setRest r
      listItems n isFirst
    | '\\' :: 'Q' :: r =>
      let (text, rest) := (upTo? "\\E".toList r).getD (r, [])
      setRest rest
      return (text.map fun c => (· == c)) ++ (← listItems n false)
    | c :: r =>
      setRest r
      let item ← listItem c
      match (← get).rest with
      | '-' :: ']' :: _ => return testOf item :: (← listItems n false)
      | '-' :: d :: r =>
        setRest r
        let other ← listItem d
        match item, other with
        | .one a, .one b =>
          if b < a then throw "range out of order in character class"
          else return (fun x => a ≤ x && x ≤ b) :: (← listItems n false)
        | _, _ => throw "invalid range in character class"
      | _ => return testOf item :: (← listItems n false)
where
  testOf : ListItem → Char → Bool
    | .one c => (· == c)
    | .many p => p

def bracketTest : ReadOrdered Regex := do
  let s ← get
  let negated := s.rest.head? = some '^'
  if negated then setRest (s.rest.drop 1)
  let tests ← listItems (s.rest.length + 1) true
  let ignoresCase := s.switches.ignoresCase
  return .char fun c =>
    let listed (d : Char) : Bool := tests.any (· d)
    (listed c || (ignoresCase && listed (otherCase c))) != negated

/-! ## Repetitions -/

def notRepeatable : String := "quantifier does not follow a repeatable item"

/-- The bounds between braces, if there are any, and what follows them. -/
def bounds? (t : Text) : ReadOrdered (Option (Times × Text)) := do
  let low := t.takeWhile Char.isDigit
  let check (ds : Text) : ReadOrdered Nat := do
    let n := numberIn 10 ds
    if n > 65535 then throw "number too big in \x7b\x7d quantifier" else return n
  if low = [] then return none
  else match t.drop low.length with
    | '\x7d' :: rest =>
      let n ← check low
      return some (⟨n, some n⟩, rest)
    | ',' :: r =>
      let high := r.takeWhile Char.isDigit
      match r.drop high.length with
      | '\x7d' :: rest =>
        let n ← check low
        if high = [] then return some (⟨n, none⟩, rest)
        else
          let m ← check high
          if m < n then throw "numbers out of order in \x7b\x7d quantifier" else return some (⟨n, some m⟩, rest)
      | _ => return none
    | _ => return none

/-- How often the piece before occurs, if that is said. -/
def times? : ReadOrdered (Option Times) := do
  match (← get).rest with
  | '*' :: r =>
    setRest r
    return some ⟨0, none⟩
  | '+' :: r =>
    setRest r
    return some ⟨1, none⟩
  | '?' :: r =>
    setRest r
    return some ⟨0, some 1⟩
  | '\x7b' :: r =>
    match ← bounds? r with
    | some (t, rest) =>
      setRest rest
      return some t
    | none => return none
  | _ => return none

/-- A piece as often as is said behind it. -/
def withTimes (r : Regex) : ReadOrdered Regex := do
  match ← times? with
  | none => return r
  | some t =>
    match (← get).rest with
    | '?' :: rest =>
      setRest rest
      return .sparing r t.low t.high
    | '+' :: rest =>
      setRest rest
      return .settled (.repeated r t.low t.high)
    | _ => return .repeated r t.low t.high

/-! ## Pieces -/

def refer (target : Nat ⊕ Text) : ReadOrdered Unit :=
  modify fun s => { s with references := target :: s.references }

/-- The group of a number, or of a name that is known by now. -/
def againNamed (name : Text) : ReadOrdered Regex := do
  refer (.inr name)
  return .again (((← get).names.lookup name).getD 0)

def isNameChar (c : Char) : Bool := isWordChar c

/-- A name up to the mark that ends it. -/
def nameUpTo (mark : Char) (t : Text) : ReadOrdered Text := do
  let name := t.takeWhile isNameChar
  if name = [] then throw "subpattern name expected"
  else if name.head?.any Char.isDigit then throw "subpattern name must start with a non-digit"
  else
    match t.drop name.length with
    | c :: rest =>
      if c = mark then
        setRest rest
        return name
      else throw "syntax error in subpattern name (missing terminator?)"
    | [] => throw "syntax error in subpattern name (missing terminator?)"

/-- A reference behind `\g`: a number, one that counts back from here, or a name. -/
def reference : ReadOrdered Regex := do
  let t := (← get).rest
  let braced := t.head? = some '\x7b'
  let t := if braced then t.drop 1 else t
  let back := t.head? = some '-'
  let t := if back then t.drop 1 else t
  let ds := t.takeWhile Char.isDigit
  if ds = [] then
    if braced then againNamed (← nameUpTo '\x7d' t)
    else throw "\\g is not followed by a braced, angle-bracketed, or quoted name/number or by a plain number"
  else
    let rest := t.drop ds.length
    setRest (if braced then rest.drop 1 else rest)
    let n := numberIn 10 ds
    let opened := (← get).opened
    let n := if back then opened + 1 - n else n
    refer (.inl n)
    return .again n

/-- Where the text ends, or its last line does. -/
def textEnding : Regex := .prefer .textEnd (.ahead true (.both (.char (· == '\n')) .textEnd))

def anyBreak : Regex :=
  .settled (.prefer (.both (.char (· == '\r')) (.char (· == '\n'))) (.char isBreak))

/-- What a backslash and a character stand for. -/
def escaped (c : Char) : ReadOrdered Regex := do
  match kind? c with
  | some p => return .char p
  | none =>
    match c with
    | 'b' => return .wordEdge
    | 'B' => return .insideWord
    | 'A' => return .textStart
    | 'G' => return .textStart
    | 'z' => return .textEnd
    | 'Z' => return textEnding
    | 'K' => return .beginHere
    | 'N' => return .char (· != '\n')
    | 'R' => return anyBreak
    | 'X' => return .char fun _ => true
    | 'g' => reference
    | 'k' =>
      match (← get).rest with
      | '<' :: r => againNamed (← nameUpTo '>' r)
      | '\x7b' :: r => againNamed (← nameUpTo '\x7d' r)
      | '\'' :: r => againNamed (← nameUpTo '\'' r)
      | _ => throw "\\k is not followed by a braced, angle-bracketed, or quoted name"
    | 'p' => throw "malformed \\P or \\p sequence"
    | 'P' => throw "malformed \\P or \\p sequence"
    | c =>
      match ← escapedChar? c with
      | some d => literal d
      | none =>
        if c.isDigit then
          let ds := c :: (← get).rest.takeWhile Char.isDigit
          let n := numberIn 10 ds
          if n < 10 ∨ n ≤ (← get).opened ∨ !isOctal c then
            setRest ((← get).rest.drop (ds.length - 1))
            refer (.inl n)
            return .again n
          else
            let ds := c :: ((← get).rest.take 2).takeWhile isOctal
            setRest ((← get).rest.drop (ds.length - 1))
            literal (Char.ofNat (numberIn 8 ds % 256))
        else if "FLlUu".toList.contains c then
          throw "PCRE2 does not support \\F, \\L, \\l, \\N\x7bname\x7d, \\U, or \\u"
        else if c.isAlpha then throw "unrecognized character follows \\"
        else literal c

/-- An expression that looks back; each of its alternatives has to have one width. -/
def lookBack (positive : Bool) : Regex → Option Regex
  | .prefer a b => do
    let x ← lookBack positive a
    let y ← lookBack positive b
    return if positive then .prefer x y else .both x y
  | r => r.width?.map fun w => .behind positive w r

/-- Switches that are turned on, and behind a dash off; a caret turns off those from outside. -/
def switchesFrom (on : Bool) (s : Switches) : Text → Switches × Text
  | '-' :: r => switchesFrom false s r
  | '^' :: r => switchesFrom on {} r
  | 'i' :: r => switchesFrom on { s with ignoresCase := on } r
  | 's' :: r => switchesFrom on { s with dotAll := on } r
  | 'm' :: r => switchesFrom on { s with multiline := on } r
  | 'x' :: r => switchesFrom on { s with spaced := on } r
  | r => (s, r)

section

variable (deeper : ReadOrdered Regex)

/-- The rest of a group up to its end; switches hold only within it. -/
def within : ReadOrdered Regex := do
  let s ← get
  set { s with depth := s.depth + 1 }
  let r ← deeper
  match (← get).rest with
  | ')' :: rest =>
    modify fun t => { t with rest, switches := s.switches, depth := s.depth }
    return r
  | _ => throw "missing closing parenthesis"

def capture (name : Option Text) : ReadOrdered Regex := do
  let n := (← get).opened + 1
  match name with
  | some t =>
    let names := (← get).names
    if (names.lookup t).isSome then
      throw "two named subpatterns have the same name (PCRE2_DUPNAMES not set)"
    modify fun s => { s with names := (t, n) :: s.names }
  | none => pure ()
  modify fun s => { s with opened := n }
  return .group n (← within deeper)

def looksBack (positive : Bool) : ReadOrdered Regex := do
  match lookBack positive (← within deeper) with
  | some r => return r
  | none => throw "lookbehind assertion is not fixed length"

/-- A group of any form. -/
def grouped : ReadOrdered Regex := do
  match (← get).rest with
  | '?' :: '#' :: r =>
    match upTo? [')'] r with
    | some (_, rest) =>
      setRest rest
      return .empty
    | none => throw "missing ) after (?# comment"
  | '?' :: ':' :: r =>
    setRest r
    within deeper
  | '?' :: '|' :: r =>
    setRest r
    within deeper
  | '?' :: '>' :: r =>
    setRest r
    return .settled (← within deeper)
  | '?' :: '=' :: r =>
    setRest r
    return .ahead true (← within deeper)
  | '?' :: '!' :: r =>
    setRest r
    return .ahead false (← within deeper)
  | '?' :: '<' :: '=' :: r =>
    setRest r
    looksBack deeper true
  | '?' :: '<' :: '!' :: r =>
    setRest r
    looksBack deeper false
  | '?' :: 'P' :: '<' :: r => capture deeper (some (← nameUpTo '>' r))
  | '?' :: '<' :: r => capture deeper (some (← nameUpTo '>' r))
  | '?' :: '\'' :: r => capture deeper (some (← nameUpTo '\'' r))
  | '?' :: 'P' :: '=' :: r => againNamed (← nameUpTo ')' r)
  | '?' :: r =>
    let s ← get
    let (switches, rest) := switchesFrom true s.switches r
    match rest with
    | ')' :: rest =>
      set { s with rest, switches }
      return .empty
    | ':' :: rest =>
      set { s with rest, switches }
      let r ← within deeper
      modify fun t => { t with switches := s.switches }
      return r
    | [] => throw "missing closing parenthesis"
    | _ => throw "unrecognized character after (? or (?-"
  | _ => capture deeper none

/-- A single piece, whose first character has been taken. -/
def piece (c : Char) : ReadOrdered Regex := do
  let s ← get
  match c with
  | '(' => grouped deeper
  | '[' => bracketTest
  | '.' => if s.switches.dotAll then return .char fun _ => true else return .char (· != '\n')
  | '^' => return if s.switches.multiline then .lineStart else .textStart
  | '$' => return if s.switches.multiline then .lineEnd else textEnding
  | '*' => throw notRepeatable
  | '+' => throw notRepeatable
  | '?' => throw notRepeatable
  | '\\' =>
    match s.rest with
    | [] => throw "\\ at end of pattern"
    | d :: r =>
      setRest r
      escaped d
  | '\x7b' => if (← bounds? s.rest).isSome then throw notRepeatable else literal c
  | c => literal c

/-- Pieces one after another, up to what ends them. -/
def pieces : (steps : Nat) → ReadOrdered Regex
  | 0 => return .empty
  | n + 1 => do
    let s ← get
    match s.rest with
    | [] => return .empty
    | '|' :: _ => return .empty
    | ')' :: r =>
      if s.depth > 0 then return .empty
      else
        setRest r
        throw "unmatched closing parenthesis"
    | '\\' :: 'E' :: r =>
      setRest r
      pieces n
    | '\\' :: 'Q' :: r =>
      let (text, rest) := (upTo? "\\E".toList r).getD (r, [])
      setRest rest
      let all ← text.mapM literal
      match all.reverse with
      | [] => pieces n
      | last :: before =>
        let last ← withTimes last
        return .both (before.foldl (fun rest r => .both r rest) last) (← pieces n)
    | c :: r =>
      setRest r
      if s.switches.spaced && isSpace c then pieces n
      else if s.switches.spaced && c == '#' then do
        setRest (r.dropWhile (· != '\n'))
        pieces n
      else
        let p ← piece deeper c
        let p ← withTimes p
        return .both p (← pieces n)

def alternatives : (steps : Nat) → ReadOrdered Regex
  | 0 => return .empty
  | n + 1 => do
    let r ← pieces deeper ((← get).rest.length + 1)
    match (← get).rest with
    | '|' :: rest =>
      setRest rest
      return .prefer r (← alternatives n)
    | _ => return r

end

def expression : (depth : Nat) → ReadOrdered Regex
  | 0 => throw "parentheses are too deeply nested"
  | n + 1 => do alternatives (expression n) ((← get).rest.length + 1)

end Ordered

/-- An expression whose alternatives have an order, with its named groups, the first one last. -/
def orderedWith? (switches : Switches) (t : Text) : Except String (Regex × List (Text × Nat)) :=
  match Ordered.expression (t.length + 1) { rest := t, switches } with
  | .ok r s =>
    let isKnown : Nat ⊕ Text → Bool
      | .inl n => 0 < n && n ≤ s.opened
      | .inr name => (s.names.lookup name).isSome
    if s.references.all isKnown then .ok (r, s.names) else .error "reference to non-existent subpattern"
  | .error e _ => .error e

/-- Read an expression whose alternatives have an order. -/
def ofOrdered? (ignoresCase : Bool) (t : Text) : Except String Regex := do
  return (← orderedWith? { ignoresCase } t).1

end KarelBuild.Shell.Regex
