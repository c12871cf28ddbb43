import KarelBuild.Shell.Reading

/-!
# Reading words

A word is read part by part. What a character means depends on the setting: outside quotes, inside
them, in the word behind an operator of a parameter, in a sum, or in a document.
-/

namespace KarelBuild.Shell

open ReadM

inductive Setting where
  /-- Outside quotes; the ending of a document takes dollar signs and back quotes as they are. -/
  | word (isEnding : Bool)
  | bareValue
  | quotes
  | quotedValue
  | sum
  /-- What stands between brackets behind a name. -/
  | subscript
  | document (p : Pending)

/-- The commands inside a word: those up to a parenthesis, and those of a whole text. -/
structure Nested where
  enclosed : ReadM Statement
  whole : ReadM Statement

namespace Setting

def isBare : Setting → Bool
  | word _ => true
  | bareValue => true
  | subscript => true
  | _ => false

def holdsQuotes : Setting → Bool
  | quotes => true
  | quotedValue => true
  | document _ => true
  | _ => false

def inQuotes (s : Setting) : Bool := !s.isBare

def text (s : Setting) (t : Text) : Part := if s.holdsQuotes then .quoted t else .plain t

/-- The setting of the word behind an operator of a parameter. -/
def ofArgument (s : Setting) : Setting := if s.isBare then bareValue else quotedValue

end Setting

def backQuote : Char := '\x60'

def isBlank (c : Char) : Bool := c == ' ' || c == '\t'

/-- A character that ends a word. -/
def isMeta (c : Char) : Bool := isBlank c || "\n;&|<>()".toList.contains c

def isSpecialName (c : Char) : Bool := "@*#?-$!".toList.contains c || c.isDigit

/-- Whether a character is more than itself. -/
def Setting.isActive (s : Setting) (c : Char) : Bool :=
  c == '\\' || c == '$' || c == backQuote || c == '\n' ||
    match s with
    | .word _ => c == '"' || c == '\'' || isMeta c
    | .bareValue => c == '"' || c == '\'' || c == '\x7d'
    | .quotes => c == '"'
    | .quotedValue => c == '"' || c == '\x7d'
    | .sum => c == '(' || c == ')'
    | .subscript => c == '"' || c == '\'' || c == '[' || c == ']'
    | .document _ => false

/-- Whether a backslash before a character goes away. -/
def Setting.unescapes (s : Setting) (c : Char) : Bool :=
  match s with
  | .word _ => true
  | .bareValue => true
  | .subscript => true
  | _ => c == '\\' || c == backQuote || c == '$' ||
    match s with
    | .document _ => false
    | .quotedValue => c == '"' || c == '\x7d'
    | _ => c == '"'

def unclosed {α : Type} (line : Nat) : Setting → ReadM α
  | .bareValue => unclosedAt line '\x7d' "Missing '\x7d'"
  | .sum => unclosedAt line ')' "Missing '))'"
  | .subscript => unclosedAt line ']' "Missing ']'"
  | .quotedValue => unclosedAt line '\x7d' "Unterminated quoted string"
  | _ => unclosedAt line '"' "Unterminated quoted string"

/-! ## Commands inside a word -/

/-- The text up to a back quote, with the escapes that hold there undone. -/
def backQuoted (inQuotes : Bool) : ReadM Text := do
  let line := (← get).line
  untilDone [] fun (back : Text) => do
    match ← next with
    | none => unclosedAt line backQuote "EOF in backquote substitution"
    | some c =>
      if c = backQuote then return .inr back.reverse
      else if c = '\\' then
        match ← nextRaw with
        | none => unclosedAt line backQuote "EOF in backquote substitution"
        | some d =>
          let dropped := d = '\\' ∨ d = backQuote ∨ d = '$' ∨ (inQuotes ∧ d = '"')
          return .inl (if dropped then d :: back else d :: '\\' :: back)
      else return .inl (c :: back)

/-- Read another text in place of the rest. -/
def inText {α : Type} (t : Text) (m : ReadM α) : ReadM α := do
  let outer ← get
  set { outer with
    rest := t, line := if outer.dialect = Dialect.rich then outer.line else 1, back := none, pending := [], inUse := [] }
  let a ← m
  let inner ← get
  set { outer with documents := inner.documents }
  return a

/-- Read with no documents left to come. -/
def apart {α : Type} (m : ReadM α) : ReadM α := do
  let outer ← get
  set { outer with back := none, pending := [] }
  let a ← m
  modify fun r => { r with back := none, pending := outer.pending }
  return a

/-! ## Escapes between dollar and quote -/

def hexValue (c : Char) : Nat :=
  if c.isDigit then c.toNat - '0'.toNat
  else if 'a' ≤ c ∧ c ≤ 'f' then c.toNat - 'a'.toNat + 10
  else c.toNat - 'A'.toNat + 10

def isHexDigit (c : Char) : Bool := c.isDigit || ('a' ≤ c && c ≤ 'f') || ('A' ≤ c && c ≤ 'F')

def isOctalDigit (c : Char) : Bool := '0' ≤ c && c ≤ '7'

/-- The byte that digits of a base spell. -/
def byteOf (base : Nat) (digits : Text) : Char :=
  Char.ofNat (digits.foldl (fun n c => n * base + hexValue c) 0 % 256)

def escapeLetters : List (Char × Char) :=
  [('a', '\x07'), ('b', '\x08'), ('f', '\x0c'), ('n', '\n'), ('r', '\r'), ('t', '\t'), ('v', '\x0b'),
    ('\\', '\\')]

/-- A code point as it is written where only ASCII is known. -/
def codePointText (n : Nat) : Text :=
  let digits := (Nat.toDigits 16 n).map Char.toUpper
  if n < 128 then [Char.ofNat n]
  else if n < 0x10000 then "\\u".toList ++ List.replicate (4 - digits.length) '0' ++ digits
  else "\\U".toList ++ List.replicate (8 - digits.length) '0' ++ digits

/-- The text between `$'` and the quote that closes, escapes undone. It ends where a zero byte comes. -/
def escaped : ReadM Text := do
  let line := (← get).line
  let t ← untilDone [] fun (back : Text) => do
    match ← nextRaw with
    | none => unclosedAt line '\'' "Unterminated quoted string"
    | some '\'' => return .inr back.reverse
    | some '\\' =>
      match ← nextRaw with
      | none => unclosedAt line '\'' "Unterminated quoted string"
      | some 'u' => return .inl (← codePoint 4 'u' back)
      | some 'U' => return .inl (← codePoint 8 'U' back)
      | some 'c' =>
        match ← nextRaw with
        | none => unclosedAt line '\'' "Unterminated quoted string"
        | some d => return .inl (Char.ofNat (d.toUpper.toNat &&& 0x1f) :: back)
      | some 'x' =>
        let digits := ((← get).rest.take 2).takeWhile isHexDigit
        modify fun r => { r with rest := r.rest.drop digits.length }
        return .inl (if digits = [] then 'x' :: '\\' :: back else byteOf 16 digits :: back)
      | some c =>
        if isOctalDigit c then
          let digits := c :: ((← get).rest.take 2).takeWhile isOctalDigit
          modify fun r => { r with rest := r.rest.drop (digits.length - 1) }
          return .inl (byteOf 8 digits :: back)
        else if c = 'e' ∨ c = 'E' then return .inl ('\x1b' :: back)
        else if c = '\'' ∨ c = '"' ∨ c = '?' then return .inl (c :: back)
        else match escapeLetters.lookup c with
          | some d => return .inl (d :: back)
          | none => return .inl (c :: '\\' :: back)
    | some c => return .inl (c :: back)
  return t.takeWhile (· != '\x00')
where
  codePoint (most : Nat) (letter : Char) (back : Text) : ReadM Text := do
    let digits := ((← get).rest.take most).takeWhile isHexDigit
    modify fun r => { r with rest := r.rest.drop digits.length }
    if digits = [] then return letter :: '\\' :: back
    else return (codePointText (digits.foldl (fun n c => n * 16 + hexValue c) 0)).reverse ++ back

/-! ## Parameters -/

/-- Cut a word at the first of a character that is not in quotes. -/
def cutWord (d : Char) : Word → Word × Option Word
  | [] => ([], none)
  | .plain t :: r =>
    match Text.cut d t with
    | (before, some after) => (Word.consPlain before [], some (Word.consPlain after r))
    | (_, none) => (.plain t :: (cutWord d r).1, (cutWord d r).2)
  | p :: r => (p :: (cutWord d r).1, (cutWord d r).2)

/-- What stands between a parameter's name and the closing brace. -/
structure Braced where
  subscript : Subscript := .none
  change : Change

/-- Pass over a word that cannot be used. -/
def wrong (parts : Setting → ReadM Word) (s : Setting) : ReadM Change := do
  let _ ← parts s.ofArgument
  return .wrong []

/-- The operators that the rich dialect adds. -/
def richChange (parts : Setting → ReadM Word) (s : Setting) (c : Char) : ReadM Change := do
  if c = ':' then
    let (offset, length) := cutWord ':' (← parts .bareValue)
    return .slice offset length
  else if c = '/' then
    let all ← skipIf '/'
    let anchor ← if all then pure [] else do
      match ← peek with
      | some '#' => skip; pure ['#']
      | some '%' => skip; pure ['%']
      | _ => pure []
    let (pattern, replacement) := cutWord '/' (← parts .bareValue)
    return .replace all anchor pattern (replacement.getD [])
  else if c = '^' ∨ c = ',' ∨ c = '~' then
    let all ← skipIf c
    let pattern ← parts .bareValue
    return .recase (if c = '^' then .upper else if c = ',' then .lower else .toggle) all pattern
  else if c = '@' then
    match (← get).rest with
    | d :: '\x7d' :: _ =>
      if "UuLQEPAKkaI".toList.contains d then
        skip
        skip
        return .transform d
      else wrong parts s
    | _ => wrong parts s
  else wrong parts s

/-- The operator behind a parameter's name, and its word. -/
def change (parts : Setting → ReadM Word) (s : Setting) : ReadM Change := do
  match ← next with
  | none => wrong parts s
  | some '\x7d' => return .keep
  | some c =>
    if c = '%' ∨ c = '#' then
      let longest ← skipIf c
      return .trim (c = '#') longest (← parts .bareValue)
    else
      let emptyToo := c = ':'
      let op ← if emptyToo then peek else pure (some c)
      match op with
      | some '-' => takeOp emptyToo; return .orElse emptyToo (← parts s.ofArgument)
      | some '=' => takeOp emptyToo; return .orAssign emptyToo (← parts s.ofArgument)
      | some '?' => takeOp emptyToo; return .orFail emptyToo (← parts s.ofArgument)
      | some '+' => takeOp emptyToo; return .instead emptyToo (← parts s.ofArgument)
      | _ =>
        if ← isRich then richChange parts s c
        else
          if emptyToo then skip
          wrong parts s
where
  takeOp (emptyToo : Bool) : ReadM Unit := if emptyToo then skip else pure ()

/-- The subscript of a list in the rich dialect. -/
def subscript (parts : Setting → ReadM Word) : ReadM Subscript := do
  if (← isRich) && (← peek) == some '[' then
    skip
    match (← get).rest with
    | '@' :: ']' :: _ => skip; skip; return .each
    | '*' :: ']' :: _ => skip; skip; return .joined
    | _ => return .member (← parts .subscript)
  else return .none

def value (s : Setting) (name : Text) (b : Braced) : Part := .value s.inQuotes name b.subscript b.change

/-- The length of a parameter; anything behind its name is wrong. -/
def sizeOf (parts : Setting → ReadM Word) (s : Setting) (name : Text) : ReadM Part := do
  let sub ← subscript parts
  if ← skipIf '\x7d' then return value s name ⟨sub, .size⟩
  else return value s name ⟨sub, ← wrong parts s⟩

def named (parts : Setting → ReadM Word) (s : Setting) (name : Text) : ReadM Part := do
  let sub ← subscript parts
  return value s name ⟨sub, ← change parts s⟩

/-- The value of the parameter that a parameter names, the names that begin with a text, or the keys of a
list. -/
def indirect (parts : Setting → ReadM Word) (s : Setting) (c : Char) : ReadM Part := do
  let name ← if isNameStart c then takeName isNameChar (← bound)
    else if c.isDigit then takeName Char.isDigit (← bound)
    else do
      skip
      pure [c]
  match (← get).rest with
  | '*' :: '\x7d' :: _ => skip; skip; return value s name ⟨.joined, .names⟩
  | '@' :: '\x7d' :: _ => skip; skip; return value s name ⟨.each, .names⟩
  | _ =>
    let sub ← subscript parts
    match sub, (← get).rest with
    | .each, '\x7d' :: _ => skip; return value s name ⟨sub, .keys⟩
    | .joined, '\x7d' :: _ => skip; return value s name ⟨sub, .keys⟩
    | _, _ => return value s name ⟨sub, .through (← change parts s)⟩

/-- What stands between braces, behind the brace that opens. -/
def bracedInside (parts : Setting → ReadM Word) (s : Setting) : ReadM Part := do
  match ← peek with
  | none => return value s [] { change := ← wrong parts s }
  | some c =>
    if isNameStart c then named parts s (← takeName isNameChar (← bound))
    else if c.isDigit then named parts s (← takeName Char.isDigit (← bound))
    else if c = '\x7d' then return value s [] { change := ← wrong parts s }
    else
      skip
      match c, ← peek with
      | '#', some d =>
        if isNameStart d then sizeOf parts s (← takeName isNameChar (← bound))
        else if d.isDigit then sizeOf parts s (← takeName Char.isDigit (← bound))
        else if d = '\x7d' then named parts s ['#']
        else if (← get).rest[1]? == some '\x7d' then
          if isSpecialName d then
            skip
            sizeOf parts s [d]
          else
            skip
            return value s [] { change := ← wrong parts s }
        else named parts s ['#']
      | _, d =>
        if c = '!' ∧ (← isRich) ∧ d.any (fun d => isNameStart d || d.isDigit || d == '#' || d == '@' || d == '*')
        then indirect parts s (d.getD ' ')
        else if isSpecialName c then named parts s [c]
        else return value s [] { change := ← wrong parts s }

/-- A parameter between braces, behind the brace that opens. What is wrong is kept as it is written. -/
def braced (parts : Setting → ReadM Word) (s : Setting) : ReadM Part := do
  let before := (← get).rest
  match ← bracedInside parts s with
  | .value q name sub (.wrong _) =>
    let written := before.take (before.length - (← get).rest.length)
    return .value q name sub (.wrong ('$' :: '\x7b' :: written))
  | p => return p

/-! ## Parts -/

/-- Whether the parenthesis that closes what follows is a double one. -/
def closesTwice (t : List Char) : Bool := scan (t.length + 1) 0 t
where
  scan : (steps : Nat) → (depth : Nat) → List Char → Bool
    | 0, _, _ => true
    | _, _, [] => true
    | n + 1, depth, c :: r =>
      if c = '\\' then scan n depth (r.drop 1)
      else if c = '\'' then scan n depth ((r.dropWhile (· != '\'')).drop 1)
      else if c = '(' then scan n (depth + 1) r
      else if c = ')' then if depth = 0 then r.head? = some ')' else scan n (depth - 1) r
      else scan n depth r

/-- What a dollar sign begins. -/
def dollar (nested : Nested) (parts : Setting → ReadM Word) (s : Setting) : ReadM (List Part) := do
  match ← peek with
  | some '(' =>
    skip
    let rest := (← get).rest
    let isSum ← if rest.head? = some '(' ∧ (← isRich) then pure (closesTwice (rest.drop 1)) else pure true
    if isSum && (← skipIf '(') then return [.sum s.inQuotes (← parts .sum)]
    else return [.output s.inQuotes (← apart nested.enclosed)]
  | some '\x7b' =>
    skip
    return [← braced parts s]
  | some '[' =>
    if ← isRich then
      skip
      return [.sum s.inQuotes (← parts .subscript)]
    else return [s.text ['$']]
  | some c =>
    if isNameStart c then return [value s (← takeName isNameChar (← bound)) { change := .bare }]
    else if isSpecialName c then
      skip
      return [value s [c] { change := .bare }]
    else if s.isBare && (c == '\'' || c == '"') && (← isRich) then
      skip
      if c = '\'' then return [.quoteMark '\'', .quoted (← escaped), .quoteMark '\'']
      else return .quoteMark '"' :: (← parts .quotes) ++ [.quoteMark '"']
    else return [s.text ['$']]
  | none => return [s.text ['$']]

/-- All arguments between quotes leave no field if there are none. -/
def quotedParts (inside : Word) : Word :=
  match inside with
  | [.value true name sub change] =>
    let isEach := match sub with
      | .each => true
      | .none => name == ['@']
      | _ => false
    if isEach && change.keepsItems then inside else .quoteMark '"' :: inside ++ [.quoteMark '"']
  | _ => .quoteMark '"' :: inside ++ [.quoteMark '"']

/-- The document ends here, or its next line begins, tabs left out if that is asked for. -/
def atDocumentLine (p : Pending) : ReadM Bool := modifyGet fun r =>
  let rest := if p.dropsTabs then r.rest.dropWhile (· == '\t') else r.rest
  let behind := rest.drop p.ending.length
  if p.ending.isPrefixOf rest && (behind = [] || behind.head? == some '\n') then
    (true, { r with rest := behind.drop 1, line := r.line + 1 })
  else (false, { r with rest })

/-- Warn of a document that the text ends in. -/
def noteDocumentEnd (p : Pending) : ReadM Unit := modify fun r =>
  let line := r.line - if r.whole.getLast? = some '\n' then 1 else 0
  { r with warnings := r.warnings ++ [Text.ofNat line ++ ": warning: here-document at line ".toList ++
      Text.ofNat p.line ++ " delimited by end-of-file (wanted \x60".toList ++ p.ending ++ "')".toList] }

/-- How far the reading of parts has come; what was read last comes first. -/
structure Progress where
  back : List Part := []
  /-- Quotes, parentheses or brackets that are open inside. -/
  depth : Nat := 0
  atLine : Bool := true
  /-- The line in which the setting began. -/
  line : Nat := 1

/-- What a character begins that is more than itself and does not end the setting. -/
def activePart (nested : Nested) (parts : Setting → ReadM Word) (s : Setting) (c : Char) :
    ReadM (List Part) := do
  skip
  if c = '\\' then
    match ← nextRaw with
    | none => return [.quoted [c]]
    | some d => return [.quoted (if s.unescapes d then [d] else [c, d])]
  else if c = '\'' then
    let line := (← get).line
    match ← takeUntil '\'' with
    | some t => return [.quoteMark '\'', .quoted t, .quoteMark '\'']
    | none => unclosedAt line '\'' "Unterminated quoted string"
  else if c = '"' then return quotedParts (← parts .quotes)
  else match s, c with
  | .word true, '$' => return [.plain [c]]
  | .word true, _ => return [.quoted [c]]
  | _, '$' => dollar nested parts s
  | _, '\n' => return [s.text [c]]
  | _, _ =>
    let text ← backQuoted s.inQuotes
    return [.output s.inQuotes (← inText text nested.whole)]

/-- Whether a parenthesis opens a group of patterns behind what has been read. -/
def opensGroup (back : List Part) : Bool :=
  match back with
  | .plain t :: _ => t.getLast?.any "?*+@!".toList.contains
  | _ => false

/-- A part of a word that begins with a character which ends words otherwise: a group of patterns, or a
stream of commands. -/
def richPart (nested : Nested) (g : Progress) (c : Char) : ReadM (Option (List Part × Nat)) := do
  let r ← get
  if !(← isRich) then return none
  else if g.depth > 0 then
    skip
    return some ([.plain [c]], if c = '(' then g.depth + 1 else if c = ')' then g.depth - 1 else g.depth)
  else if c = '(' ∧ r.extended ∧ opensGroup g.back then
    skip
    return some ([.plain [c]], 1)
  else if (c = '<' ∨ c = '>') ∧ r.rest[1]? = some '(' then
    skip
    skip
    return some ([.process (c = '<') (← apart nested.enclosed)], 0)
  else return none

/-- Read the next part, or find the end. -/
def step (nested : Nested) (parts : Setting → ReadM Word) (s : Setting) (g : Progress) :
    ReadM (Progress ⊕ Word) := do
  let finish : ReadM (Progress ⊕ Word) := return .inr g.back.reverse
  let go (ps : List Part) (depth : Nat) : ReadM (Progress ⊕ Word) :=
    return .inl ⟨ps.reverse ++ g.back, depth, false, g.line⟩
  let ended ← match s, g.atLine with
    | .document p, true => atDocumentLine p
    | _, _ => pure false
  if ended then finish
  else match ← peek with
  | none =>
    match s with
    | .word _ => finish
    | .document p =>
      noteDocumentEnd p
      finish
    | _ => unclosed g.line s
  | some c =>
    if !s.isActive c then go [s.text (← takeRun (!s.isActive ·))] g.depth
    else match s, c with
    | .word _, _ =>
      if isMeta c then
        match ← richPart nested g c with
        | some (ps, depth) => go ps depth
        | none => finish
      else go (← activePart nested parts s c) g.depth
    | .bareValue, '\x7d' => skip; finish
    | .quotes, '"' => skip; finish
    | .quotedValue, '\x7d' =>
      skip
      if g.depth = 0 then finish else go [s.text [c]] g.depth
    | .quotedValue, '"' => skip; go [.quoteMark '"'] (1 - g.depth)
    | .sum, '(' => skip; go [.plain [c]] (g.depth + 1)
    | .sum, ')' =>
      skip
      if g.depth > 0 then go [.plain [c]] (g.depth - 1)
      else if ← skipIf ')' then finish
      else go [.plain [c]] 0
    | .subscript, '[' => skip; go [.plain [c]] (g.depth + 1)
    | .subscript, ']' =>
      skip
      if g.depth > 0 then go [.plain [c]] (g.depth - 1) else finish
    | .document _, '\n' =>
      skip
      return .inl ⟨.quoted [c] :: g.back, g.depth, true, g.line⟩
    | _, _ => go (← activePart nested parts s c) g.depth

/-- The parts of a setting, up to what closes it; settings nest at most `depth` deep. -/
def parts (nested : Nested) : (depth : Nat) → Setting → ReadM Word
  | 0, _ => fail "end of file unexpected"
  | n + 1, s => do untilDone { line := (← get).line } (step nested (parts nested n) s)

/-- Join neighbours that are both unquoted text, or both quoted. -/
def join : Word → Word
  | [] => []
  | .plain t :: r =>
    match join r with
    | .plain u :: r => .plain (t ++ u) :: r
    | r => .plain t :: r
  | p :: r => p :: join r

/-- The word that comes next. -/
def readWord (nested : Nested) (isEnding : Bool) : ReadM Word := do
  return join (← parts nested (← bound) (.word isEnding))

/-- The text of a document whose line has been read. -/
def readDocument (nested : Nested) (p : Pending) : ReadM Word := do
  if p.isLiteral then
    untilDone [] fun (back : List Text) => do
      if ← atDocumentLine p then return .inr [.quoted back.reverse.flatten]
      else if (← get).rest = [] then
        noteDocumentEnd p
        return .inr [.quoted back.reverse.flatten]
      else
        let line := (← get).rest.takeWhile (· != '\n')
        let ended := (← get).rest.length > line.length
        modify fun r => { r with rest := r.rest.drop (line.length + 1), line := r.line + 1 }
        return .inl ((if ended then line ++ ['\n'] else line) :: back)
  else parts nested (← bound) (.document p)

end KarelBuild.Shell
