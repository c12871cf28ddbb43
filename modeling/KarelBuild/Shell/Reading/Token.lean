import KarelBuild.Shell.Reading.Word

/-!
# Reading tokens

A token is a mark, a word, a reserved word where one may stand, a redirection, the end of a line or
the end of the text. Words may be aliases, whose text is then read in their place.
-/

namespace KarelBuild.Shell

open ReadM

/-- What a token may be besides what it is everywhere. -/
structure Expected where
  linesPassed : Bool := false
  keywords : Bool := false
  aliases : Bool := false

def Expected.command : Expected := ⟨false, true, true⟩

def Expected.commandOnAnyLine : Expected := ⟨true, true, true⟩

def keywords : List Text :=
  ["!", "case", "do", "done", "elif", "else", "esac", "fi", "for", "if", "in", "then", "until",
    "while", "\x7b", "\x7d"].map String.toList

def richKeywords : List Text := ["[[", "coproc", "function", "select", "time"].map String.toList

namespace Token

/-- How a token is called in a complaint. -/
def title : Token → Text
  | word _ => "word".toList
  | keyword name => '"' :: name ++ ['"']
  | mark t => '"' :: t ++ ['"']
  | redirection _ _ => "redirection".toList
  | newline => "newline".toList
  | place => "word".toList
  | ending => "end of file".toList

def isMark (name : String) : Token → Bool
  | mark t => t == name.toList
  | _ => false

def isKeyword (name : String) : Token → Bool
  | keyword t => t == name.toList
  | _ => false

/-- A token that cannot begin a command and so ends a list of them. -/
def endsList : Token → Bool
  | mark t => t == [')'] || t == [';', ';'] || t == [';', '&'] || t == ";;&".toList
  | keyword t => ["do", "done", "elif", "else", "esac", "fi", "then", "\x7d"].any (t == ·.toList)
  | ending => true
  | _ => false

end Token

def putBack (t : Token) : ReadM Unit := modify fun r => { r with back := some t }

/-- The last token as it is written. -/
def written : ReadM Text := do
  let r ← get
  let t := r.tokenAt.take (r.tokenAt.length - r.rest.length)
  return if t = ['\n'] ∨ t = [] then "newline".toList else t

/-- The line in which the text ends, as the rich dialect counts. -/
def endLine : ReadM Nat := do
  let r ← get
  return r.line + if r.whole.getLast? = some '\n' then 0 else 1

/-- Complain about a token. -/
def unexpected {α : Type} (t : Token) (expecting : Option String) : ReadM α := do
  let line := (← get).line
  if ← isRich then
    match t with
    | .ending =>
      throw { line := ← endLine, message := "syntax error: unexpected end of file".toList }
    | _ =>
      let line := match t with
        | .newline => line - 1
        | _ => line
      throw ⟨line, "syntax error near unexpected token \x60".toList ++ (← written) ++ ['\''], true, []⟩
  else
    let wanted := (expecting.map fun e => " (expecting ".toList ++ e.toList ++ [')']).getD []
    throw { line, message := t.title ++ " unexpected".toList ++ wanted }

/-- The rest of a mark that begins with this character; the longest one counts. -/
def markFrom (c : Char) : ReadM Text := do
  let rich ← isRich
  if c = '&' then
    if ← skipIf '&' then return ['&', '&']
    else if rich && (← peek) == some '>' then
      skip
      if ← skipIf '>' then return "&>>".toList else return "&>".toList
    else return [c]
  else if c = '|' then
    if ← skipIf '|' then return ['|', '|']
    else if rich && (← skipIf '&') then return ['|', '&']
    else return [c]
  else if c = ';' then
    if ← skipIf ';' then
      if rich && (← skipIf '&') then return ";;&".toList else return [';', ';']
    else if rich && (← skipIf '&') then return [';', '&']
    else return [c]
  else return [c]

/-- The mark of a redirection. -/
def redirectionMark : ReadM Text := do
  let c ← next
  let d ← peek
  if c = some '>' then
    match d with
    | some '>' => skip; return [ '>', '>']
    | some '|' => skip; return ['>', '|']
    | some '&' => skip; return ['>', '&']
    | _ => return ['>']
  else
    match d with
    | some '<' =>
      skip
      if ← skipIf '-' then return "<<-".toList
      else if (← isRich) && (← skipIf '<') then return "<<<".toList
      else return ['<', '<']
    | some '&' => skip; return ['<', '&']
    | some '>' => skip; return ['<', '>']
    | _ => return ['<']

/-- The name between braces that a descriptor is asked for by. -/
def heldName? (t : Text) : Option Text :=
  match t with
  | '\x7b' :: r =>
    let name := r.dropLast
    let bare := name.takeWhile isNameChar
    let behind := name.drop bare.length
    let isMember := behind.head? = some '[' ∧ behind.getLast? = some ']'
    if r.getLast? = some '\x7d' ∧ isName bare ∧ (behind = [] ∨ isMember) then some name else none
  | _ => none

/-- The descriptor that a word right before a redirection names. -/
def descriptor? (rich : Bool) : Word → Option (Option FdPlace)
  | [] => some none
  | [.plain t] =>
    if t.all Char.isDigit && (t.length == 1 || rich) then some ((String.ofList t).toNat?.map .number)
    else if rich then (heldName? t).map fun name => some (.heldBy name)
    else none
  | _ => none

/-- Pass over blanks and comments. -/
def skipBlanks : ReadM Unit :=
  untilDone () fun _ => do
    match ← peek with
    | some '#' =>
      let _ ← takeRun (· != '\n')
      return .inr ()
    | some c =>
      if isBlank c then
        skip
        return .inl ()
      else return .inr ()
    | none => return .inr ()

/-- Let go of the aliases whose text has been read; tells whether the next word may be one too. -/
def leaveAliases : ReadM Bool := modifyGet fun r =>
  let (still, left) := r.inUse.partition fun a => r.rest.length > a.left
  (left.any (·.chains), { r with inUse := still })

/-- What follows the bracket that closes a subscript; quotes and brackets in it are passed over. -/
def behindSubscript? : (steps : Nat) → (depth : Nat) → List Char → Option (List Char)
  | 0, _, _ => none
  | _, _, [] => none
  | n + 1, depth, c :: r =>
    if c = '\\' then behindSubscript? n depth (r.drop 1)
    else if c = '\'' then behindSubscript? n depth ((r.dropWhile (· != '\'')).drop 1)
    else if c = '"' then behindSubscript? n depth (afterQuotes n r)
    else if c = '[' then behindSubscript? n (depth + 1) r
    else if c = ']' then if depth = 0 then some r else behindSubscript? n (depth - 1) r
    else behindSubscript? n depth r
where
  afterQuotes : (steps : Nat) → List Char → List Char
    | 0, r => r
    | _, [] => []
    | n + 1, c :: r =>
      if c = '"' then r
      else if c = '\\' then afterQuotes n (r.drop 1)
      else afterQuotes n r

/-- Whether a subscript comes behind a bracket, and the mark that gives its place a value. -/
def isSubscribed (t : List Char) : Bool :=
  match behindSubscript? (t.length + 1) 0 t with
  | some ('=' :: _) => true
  | some ('+' :: '=' :: _) => true
  | _ => false

/-- Whether a place of a list comes next that is given a value. -/
def comesPlace (t : List Char) : Bool :=
  let name := t.takeWhile isNameChar
  isName name && match t.drop name.length with
    | '[' :: behind => isSubscribed behind
    | _ => false

/-- The next token, whatever it may mean; with `leads`, it is the first of a command. -/
def rawToken (nested : Nested) (isEnding leads : Bool) : ReadM Token := do
  skipBlanks
  let c ← peek
  modify fun r => { r with tokenAt := r.rest }
  if leads && (← isRich) && comesPlace (← get).rest then return .place
  match c with
  | none => return .ending
  | some '\n' =>
    skip
    return .newline
  | some c =>
    if "&|;()".toList.contains c then
      skip
      let m ← markFrom c
      if "&>".toList.isPrefixOf m then return .redirection none m else return .mark m
    else
      let w ← readWord nested isEnding
      match (← peek), descriptor? (← isRich) w with
      | some '<', some fd => return .redirection fd (← redirectionMark)
      | some '>', some fd => return .redirection fd (← redirectionMark)
      | _, _ => return .word w

/-- Read the documents that begin after this line. -/
def readDocuments (nested : Nested) : ReadM Unit := do
  let ps := (← get).pending
  modify fun r => { r with pending := [] }
  for p in ps do
    let w ← readDocument nested p
    modify fun r => { r with documents := r.documents.setIfInBounds p.number w }

/-- The text that an alias stands for, if the word is one that is not in use. -/
def alias? (name : Text) : ReadM (Option Text) := do
  let r ← get
  if r.inUse.any (·.name == name) then return none else return r.aliases.lookup name

def nextRawToken (nested : Nested) (isEnding leads : Bool) : ReadM Token := do
  match (← get).back with
  | some t =>
    modify fun r => { r with back := none }
    return t
  | none => rawToken nested isEnding leads

/-- The next token in a place where certain things may stand. -/
def tokenIn (nested : Nested) (isEnding : Bool) (e : Expected) : ReadM Token :=
  untilDone e.aliases fun aliases => do
    let chained ← leaveAliases
    let aliases := aliases || chained
    let t ← nextRawToken nested isEnding e.aliases
    match t with
    | .newline =>
      if e.linesPassed then
        readDocuments nested
        return .inl aliases
      else return .inr t
    | .word w =>
      match w.plain? with
      | none => return .inr t
      | some name =>
        let isRichWord := (← isRich) && richKeywords.contains name
        if e.keywords && (keywords.contains name || isRichWord) then return .inr (.keyword name)
        else if aliases then
          match ← alias? name with
          | some text =>
            modify fun r =>
              { r with
                rest := text ++ r.rest
                inUse := ⟨name, r.rest.length, text.getLast?.any isBlank⟩ :: r.inUse }
            return .inl aliases
          | none => return .inr t
        else return .inr t
    | _ => return .inr t

def token (nested : Nested) (e : Expected) : ReadM Token := tokenIn nested false e

end KarelBuild.Shell
