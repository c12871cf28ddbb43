import KarelBuild.Shell.Reading.Condition

/-!
# Reading commands

Commands are read from tokens. A compound command holds lists of commands, and a list is read with
the reader for what is nested one level deeper, so the nesting bounds the recursion.
-/

namespace KarelBuild.Shell

open ReadM

/-- How a list of commands may end. -/
inductive ListKind where
  /-- At the end of a line, or of the text. -/
  | line
  /-- Where no command can begin, behind at least one command. -/
  | filled
  /-- Where no command can begin. -/
  | any
  deriving DecidableEq, Repr

/-- What may be nested in a command. -/
inductive Goal where
  | list (k : ListKind)
  | command (e : Expected)

abbrev Reader := Goal → ReadM Statement

/-- The commands inside a word, read one level deeper. -/
def nestedIn (deeper : Reader) : Nested where
  enclosed := do
    let s ← deeper (.list .any)
    let t ← match (← get).back with
      | some t => pure t
      | none => pure .ending
    modify fun r => { r with back := none }
    if t.isMark ")" then return s
    else match t with
      | .ending =>
        if ← isRich then unclosedAt (← endLine) ')' "" else unexpected t (some "\")\"")
      | t => unexpected t (some "\")\"")
  whole := deeper (.list .any)

variable (deeper : Reader)

def nextToken (e : Expected) : ReadM Token := token (nestedIn deeper) e

/-- The next token where anything is taken as it is. -/
def plainToken : ReadM Token := nextToken deeper {}

def expectKeyword (name : String) : ReadM Unit := do
  let t ← plainToken deeper
  if t.isKeyword name then return else unexpected t (some ("\"" ++ name ++ "\""))

/-! ## Redirections -/

def directionOf : Text → Direction
  | ['<'] => .reads
  | ['>', '>'] => .appends
  | ['>', '|'] => .replaces
  | ['<', '>'] => .both
  | _ => .writes

/-- A descriptor that is named outright, or closed. -/
def copyOf (fd : Nat) (reads : Bool) (w : Word) : Redirection :=
  match w with
  | [.plain ['-']] => .copy fd none
  | [.plain [c]] =>
    if c.isDigit then .copy fd (some (c.toNat - '0'.toNat)) else .copyNamed fd reads w
  | _ => .copyNamed fd reads w

/-- The redirection of a descriptor behind its mark. -/
def redirectionOf (fd : Option Nat) (mark : Text) : ReadM Redirection := do
  let isDocument := mark == ['<', '<'] || mark == "<<-".toList
  match ← tokenIn (nestedIn deeper) isDocument {} with
  | .word w =>
    if isDocument then
      let number := (← get).documents.size
      modify fun r =>
        { r with
          documents := r.documents.push []
          pending := r.pending ++ [⟨number, w.literal, mark.length == 3, w.isQuoted, r.line⟩] }
      return .document (fd.getD 0) number
    else if mark = ['>', '&'] then
      return copyOf (fd.getD 1) false w
    else if mark = ['<', '&'] then return copyOf (fd.getD 0) true w
    else if mark = ['&', '>'] then return .outAndErrors false w
    else if mark = "&>>".toList then return .outAndErrors true w
    else if mark = "<<<".toList then return .text (fd.getD 0) w
    else
      let direction := directionOf mark
      let usual := if direction = .reads ∨ direction = .both then 0 else 1
      return .file (fd.getD usual) direction w
  | t => unexpected t none

/-- The redirection behind its mark. -/
def redirection (fd : Option FdPlace) (mark : Text) : ReadM Redirection := do
  match fd with
  | none => redirectionOf deeper none mark
  | some (.number n) => redirectionOf deeper (some n) mark
  | some (.heldBy name) => return .allotted name (← redirectionOf deeper none mark)

/-- The redirections behind a compound command. -/
def redirections : ReadM (List Redirection) :=
  untilDone [] fun (back : List Redirection) => do
    match ← nextToken deeper .command with
    | .redirection fd mark => return .inl ((← redirection deeper fd mark) :: back)
    | t =>
      putBack t
      return .inr back.reverse

/-! ## Simple commands -/

/-- The name and the rest of a word that gives a variable a value, and whether it is appended to. -/
def assignmentParts? (rich : Bool) (w : Word) : Option (Text × Bool × Word) :=
  match w with
  | .plain t :: r =>
    let name := t.takeWhile isNameChar
    let behind := t.drop name.length
    if !isName name then none
    else match rich, behind with
      | _, '=' :: value => some (name, false, Word.consPlain value r)
      | true, '+' :: '=' :: value => some (name, true, Word.consPlain value r)
      | _, _ => none
  | _ => none

/-- The subscript behind its bracket, whether its place is appended to, and the first part of the value. -/
def subscribed : ReadM (Word × Bool) := do
  let sub ← parts (nestedIn deeper) (← bound) .subscript
  let appends ← skipIf '+'
  skip
  return (join sub, appends)

/-- A value directly behind a mark, which may be empty. -/
def directWord : ReadM Word := readWord (nestedIn deeper) false

/-- The members of a list up to the parenthesis that closes it. -/
def listMembers : ReadM (List Member) := do
  let line := (← get).line
  untilDone [] fun (back : List Member) => do
    skipSpace
    let r ← get
    match r.rest with
    | '[' :: t =>
      if isSubscribed t then
        skip
        let (key, appends) ← subscribed deeper
        return .inl (.entry key appends (← directWord deeper) :: back)
      else word line back
    | _ => word line back
where
  skipSpace : ReadM Unit := untilDone () fun _ => do
    skipBlanks
    if (← peek) == some '\n' then
      skip
      return .inl ()
    else return .inr ()
  word (line : Nat) (back : List Member) : ReadM (List Member ⊕ List Member) := do
    match ← nextToken deeper ⟨true, false, false⟩ with
    | .word w => return .inl (.word w :: back)
    | .ending => unclosedAt line ')' "Missing ')'"
    | t => if t.isMark ")" then return .inr back.reverse else unexpected t none

/-- A list in parentheses, if one comes here. -/
def listValue? : ReadM (Option Assigned) := do
  if (← get).rest.head? == some '(' then
    skip
    return some (.list (← listMembers deeper))
  else return none

/-- An assignment to a place behind a name, if one comes next. -/
def placeAssignment? : ReadM (Option Assignment) := do
  let t := (← get).rest
  let name := t.takeWhile isNameChar
  match t.drop name.length with
  | '[' :: behind =>
    if isName name && isSubscribed behind then
      modify fun r => { r with rest := behind, tokenAt := t }
      let (sub, appends) ← subscribed deeper
      match ← listValue? deeper with
      | some v => return some (.mk name (some sub) appends v)
      | none => return some (.mk name (some sub) appends (.text (← directWord deeper)))
    else return none
  | _ => return none

/-- An assignment, if the word is one; a list in parentheses may be its value. -/
def assignment? (w : Word) : ReadM (Option Assignment) := do
  let rich ← isRich
  match assignmentParts? rich w with
  | none => return none
  | some (name, appends, value) =>
    match ← if rich && value.isEmpty then listValue? deeper else pure none with
    | some v => return some (.mk name none appends v)
    | none => return some (.mk name none appends (.text value))

/-- What a simple command has so far; what was read last comes first. -/
structure Simple where
  assignments : List Assignment := []
  words : List Word := []
  redirections : List Redirection := []
  /-- The line that counts, once it is known. -/
  line : Option Nat := none

/-- Whether one thing has been read. -/
def Simple.hasOne (s : Simple) : Bool := s.assignments.length + s.words.length + s.redirections.length == 1

def Simple.statement (s : Simple) (line : Nat) : Statement :=
  .simple (s.line.getD line) s.assignments.reverse s.words.reverse s.redirections.reverse

def specialBuiltins : List Text :=
  [".", ":", "break", "continue", "eval", "exec", "exit", "export", "local", "readonly", "return", "set",
    "shift", "times", "trap", "unset"].map String.toList

/-- Whether a token begins a compound command. -/
def Token.beginsCompound (t : Token) : Bool :=
  t.isMark "(" || ["\x7b", "[[", "case", "for", "if", "select", "until", "while"].any t.isKeyword

/-- The body of a function whose name and parentheses have been read. In the rich dialect it is a compound
command. -/
def functionBody (name : Text) : ReadM Statement := do
  let line := (← get).line
  if ← isRich then
    let t ← nextToken deeper .commandOnAnyLine
    if !t.beginsCompound then unexpected t none
    else
      putBack t
      return .define line name (← deeper (.command {}))
  else return .define line name (← deeper (.command .commandOnAnyLine))

/-- A parenthesis behind the name of a function. -/
def function (w : Word) : ReadM Statement := do
  let t ← plainToken deeper
  if !t.isMark ")" then unexpected t (some "\")\"")
  else match w with
    | [.plain name] =>
      let rich ← isRich
      if (isName name && !specialBuiltins.contains name) || rich then functionBody deeper name
      else fail "Bad function name"
    | w => if ← isRich then functionBody deeper w.literal else fail "Bad function name"

/-- Whether a word takes assignments as its arguments. -/
def declares (w : Word) : Bool :=
  match w with
  | [.plain t] => ["declare", "export", "local", "readonly", "typeset"].any (t == ·.toList)
  | _ => false

def Assignment.name : Assignment → Text
  | .mk name _ _ _ => name

/-- An assignment among the arguments; only those of lists are set apart. -/
def argumentAssignment? (w : Word) : ReadM (Option Assignment) := do
  if (← get).rest.head? == some '(' then assignment? deeper w else return none

/-- The line in which a token ended that has just been read. -/
def lineBehind (t : Token) : ReadM Nat := do
  let line := (← get).line
  return match t with
    | .newline => line - 1
    | _ => line

def simpleStep (line : Nat) (s : Simple) : ReadM (Simple ⊕ Statement) := do
  let first := s.words.isEmpty
  let rich ← isRich
  let t ← nextToken deeper ⟨false, false, first⟩
  let here ← lineBehind t
  let s := if rich && s.hasOne then { s with line := some here } else s
  match t with
  | .place =>
    let a ← placeAssignment? deeper
    return .inl { s with assignments := a.toList ++ s.assignments }
  | .word w =>
    let asArgument := rich && s.words.getLast?.any declares
    let a ← if first then assignment? deeper w
      else if asArgument then argumentAssignment? deeper w else pure none
    match a with
    | some a =>
      if first then return .inl { s with assignments := a :: s.assignments }
      else return .inl { s with assignments := a :: s.assignments, words := [.plain a.name] :: s.words }
    | none => return .inl { s with words := w :: s.words }
  | .redirection fd mark =>
    return .inl { s with redirections := (← redirection deeper fd mark) :: s.redirections }
  | t =>
    match s with
    | ⟨[], [w], [], _⟩ =>
      if t.isMark "(" then return .inr (← function deeper w)
      else
        putBack t
        return .inr (s.statement line)
    | _ =>
      putBack t
      return .inr (s.statement line)

/-- A simple command, or the definition of a function. -/
def simple : ReadM Statement := do
  let line := (← get).line
  untilDone {} (simpleStep deeper line)

/-! ## Compound commands -/

def filledList : ReadM Statement := deeper (.list .filled)

/-- The branches of a choice behind the first test's keyword, and the keyword that ends it. -/
def choice : ReadM Statement := do
  untilDone [] fun (back : List (Statement × Statement)) => do
    let test ← filledList deeper
    expectKeyword deeper "then"
    let body ← filledList deeper
    let branches := (test, body) :: back
    let t ← plainToken deeper
    if t.isKeyword "elif" then return .inl branches
    else if t.isKeyword "else" then
      let otherwise ← filledList deeper
      expectKeyword deeper "fi"
      return .inr (.choice branches.reverse (some otherwise))
    else
      putBack t
      expectKeyword deeper "fi"
      return .inr (.choice branches.reverse none)

def loop (expected : Bool) : ReadM Statement := do
  let test ← filledList deeper
  expectKeyword deeper "do"
  let body ← filledList deeper
  expectKeyword deeper "done"
  return .loop expected test body

/-- The words that a variable runs over, up to the end of their line. -/
def eachWords : ReadM (List Word) :=
  untilDone [] fun (back : List Word) => do
    match ← plainToken deeper with
    | .word w => return .inl (w :: back)
    | .newline => return .inr back.reverse
    | t => if t.isMark ";" then return .inr back.reverse else unexpected t none

def allArguments : Word := [.value true ['@'] .none .bare]

def doneBody : ReadM Statement := do
  let body ← filledList deeper
  expectKeyword deeper "done"
  return body

/-- The body of a rich loop, which braces may hold as well. -/
def braceOrDoBody : ReadM Statement := do
  let t ← nextToken deeper .commandOnAnyLine
  let t ← if t.isMark ";" then nextToken deeper .commandOnAnyLine else pure t
  if t.isKeyword "do" then doneBody deeper
  else if t.isKeyword "\x7b" then
    let body ← filledList deeper
    expectKeyword deeper "\x7d"
    return body
  else unexpected t (some "\"do\"")

/-- The three parts of a counting loop. -/
def countingLoop (line : Nat) : ReadM Statement := do
  let before := (← get).rest
  let expression ← parts (nestedIn deeper) (← bound) .sum
  let written := before.take (before.length - (← get).rest.length)
  let wrong (message : String) : ReadM Statement :=
    throw ⟨line, message.toList, false, ["syntax error: \x60((".toList ++ written ++ ['\'']]⟩
  let (first, rest) := cutWord ';' (join expression)
  match rest.map (cutWord ';') with
  | some (test, some next) =>
    if (cutWord ';' next).2.isSome then wrong "syntax error: \x60;' unexpected"
    else return .count line first test next (← braceOrDoBody deeper)
  | _ => wrong "syntax error: arithmetic expression required"

/-- The words behind the variable of a loop, and the body that is run for each. -/
def wordsAndBody : ReadM (List Word × Statement) := do
  let t ← nextToken deeper .commandOnAnyLine
  let words ← if t.isKeyword "in" then eachWords deeper else do
    if !t.isMark ";" then putBack t
    pure [allArguments]
  if ← isRich then
    let t ← nextToken deeper .commandOnAnyLine
    putBack t
    if t.isKeyword "do" || t.isKeyword "\x7b" then return (words, ← braceOrDoBody deeper)
    else unexpected t none
  else
    let t ← nextToken deeper .commandOnAnyLine
    if t.isKeyword "do" then return (words, ← doneBody deeper)
    else unexpected t (some "\"do\"")

def each (line : Nat) : ReadM Statement := do
  let rich ← isRich
  match ← plainToken deeper with
  | .word [.plain name] =>
    if !isName name && !rich then fail "Bad for loop variable"
    else
      let (words, body) ← wordsAndBody deeper
      return .each line name words body
  | t =>
    if rich && t.isMark "(" && (← get).rest.head? == some '(' then
      skip
      countingLoop deeper line
    else if rich then unexpected t none
    else fail "Bad for loop variable"

/-- A loop in which one of the words is chosen each time. -/
def menu (line : Nat) : ReadM Statement := do
  match ← plainToken deeper with
  | .word w =>
    let (words, body) ← wordsAndBody deeper
    return .menu line w.literal words body
  | t => unexpected t none

/-- The patterns of a case behind its first token, up to the parenthesis behind them. -/
def patterns (first : Token) : ReadM (List Word) := do
  let rich ← isRich
  let first ← if first.isMark "(" then plainToken deeper else pure first
  untilDone ([], first) fun ((back : List Word), (t : Token)) => do
    let w ← match t with
      | .word w => pure w
      | .keyword k => pure [.plain k]
      | t => if rich then unexpected t none else pure []
    let t ← plainToken deeper
    if t.isMark "|" then return .inl (w :: back, ← plainToken deeper)
    else if t.isMark ")" then return .inr (w :: back).reverse
    else unexpected t (some "\")\"")

/-- How a case ends; `none` if this token ends none. -/
def caseEnd? (t : Token) : Option CaseEnd :=
  if t.isMark ";;" then some .stop
  else if t.isMark ";&" then some .goOn
  else if t.isMark ";;&" then some .tryNext
  else none

def select (line : Nat) : ReadM Statement := do
  match ← plainToken deeper with
  | .word w =>
    let t ← nextToken deeper .commandOnAnyLine
    if !t.isKeyword "in" then unexpected t (some "\"in\"")
    else
      let inCases : Expected := ⟨true, true, false⟩
      let first ← nextToken deeper inCases
      let noCases : List (List Word × Statement × CaseEnd) := []
      untilDone (noCases, first) fun (back, t) => do
        if t.isKeyword "esac" then return .inr (.select line w back.reverse)
        else
          let ps ← patterns deeper t
          let body ← deeper (.list .any)
          let t ← nextToken deeper inCases
          if t.isKeyword "esac" then return .inr (.select line w ((ps, body, .stop) :: back).reverse)
          else match caseEnd? t with
            | some e => return .inl ((ps, body, e) :: back, ← nextToken deeper inCases)
            | none => unexpected t (some "\";;\"")
  | t => unexpected t (some "word")

/-! ## Conditions -/

def bracketCondition (line : Nat) : ReadM Statement := do
  return .condition line (← ConditionReading.whole (nestedIn deeper) line)

/-- A function that its keyword announces; parentheses may follow its name. -/
def announcedFunction : ReadM Statement := do
  match ← plainToken deeper with
  | .word w =>
    let name := w.literal
    let t ← nextToken deeper .commandOnAnyLine
    if t.isMark "(" then
      let t ← plainToken deeper
      if t.isMark ")" then functionBody deeper name else unexpected t (some "\")\"")
    else
      putBack t
      functionBody deeper name
  | t => unexpected t none

/-! ## Commands -/

/-- A compound command that a keyword begins; `none` if no command begins with it. -/
def keywordCommand (line : Nat) (t : Token) : ReadM (Option Statement) := do
  if t.isKeyword "if" then return some (← choice deeper)
  else if t.isKeyword "while" then return some (← loop deeper true)
  else if t.isKeyword "until" then return some (← loop deeper false)
  else if t.isKeyword "for" then return some (← each deeper line)
  else if t.isKeyword "case" then return some (← select deeper line)
  else if t.isKeyword "\x7b" then
    let s ← filledList deeper
    expectKeyword deeper "\x7d"
    return some (if ← isRich then .group s else s)
  else if t.isKeyword "[[" then return some (← bracketCondition deeper line)
  else if t.isKeyword "function" then return some (← announcedFunction deeper)
  else if t.isKeyword "select" then return some (← menu deeper line)
  else return none

def parenthesized (line : Nat) : ReadM Statement := do
  let rest := (← get).rest
  if (← isRich) && rest.head? == some '(' && closesTwice (rest.drop 1) then
    skip
    return .sum line (← parts (nestedIn deeper) (← bound) .sum)
  else
    let s ← filledList deeper
    let t ← plainToken deeper
    if t.isMark ")" then return .subshell line s else unexpected t (some "\")\"")

def withRedirections (line : Nat) (s : Statement) : ReadM Statement := do
  match ← redirections deeper with
  | [] => return s
  | rs => return .redirected line s rs

/-- A command that runs beside the shell: a compound one may have a name in front. -/
def companion (line : Nat) : ReadM Statement := do
  let t ← nextToken deeper .command
  let saved ← get
  match t with
  | .word w =>
    let behind ← nextToken deeper .command
    putBack behind
    if behind.beginsCompound then return .companion line w.literal (← deeper (.command {}))
    else set saved
  | _ => pure ()
  putBack t
  match t with
  | .newline => unexpected t none
  | _ => return .companion line "COPROC".toList (← deeper (.command {}))

def command (e : Expected) : ReadM Statement := do
  let line := (← get).line
  let t ← nextToken deeper e
  match t with
  | .word _ =>
    putBack t
    simple deeper
  | .redirection _ _ =>
    putBack t
    simple deeper
  | .place =>
    putBack t
    simple deeper
  | _ =>
    if t.isMark "(" then withRedirections deeper line (← parenthesized deeper line)
    else if t.isKeyword "coproc" then companion deeper line
    else match ← keywordCommand deeper line t with
      | some (.define line name body) => return .define line name body
      | some s => withRedirections deeper line s
      | none => unexpected t none

/-- Send errors along with output into a pipe. -/
def withErrors : Statement → Statement
  | .simple line assignments words rs => .simple line assignments words (rs ++ [.copy 2 (some 1)])
  | .redirected line body rs => .redirected line body (rs ++ [.copy 2 (some 1)])
  | s => .redirected 0 s [.copy 2 (some 1)]

def stages (e : Expected) : ReadM Statement := do
  let line := (← get).line
  let first ← command deeper e
  untilDone [first] fun (back : List Statement) => do
    let t ← plainToken deeper
    if t.isMark "|" then return .inl ((← command deeper .commandOnAnyLine) :: back)
    else if t.isMark "|&" then
      let back := match back with
        | s :: others => withErrors s :: others
        | [] => []
      return .inl ((← command deeper .commandOnAnyLine) :: back)
    else
      putBack t
      match back with
      | [s] => return .inr s
      | _ => return .inr (.pipeline line back.reverse)

/-- Whether a pipeline ends where it could begin. -/
def isEmptyPipeline (t : Token) : Bool :=
  match t with
  | .newline => true
  | .ending => true
  | t => t.isMark ";" || t.isMark "&"

def noCommand : Statement := .simple 0 [] [] []

/-- A pipeline; in the rich dialect several words may stand in front of it. -/
def pipelineIn : (steps : Nat) → Expected → ReadM Statement
  | 0, _ => fail "end of file unexpected"
  | n + 1, e => do
    let rich ← isRich
    let t ← nextToken deeper e
    if t.isKeyword "!" then
      if rich then
        let t ← nextToken deeper .command
        putBack t
        if isEmptyPipeline t then return .opposite noCommand else return .opposite (← pipelineIn n {})
      else return .opposite (← stages deeper .command)
    else if t.isKeyword "time" then
      let t ← nextToken deeper .command
      let briefly := match t with
        | .word w => w.plain? == some "-p".toList
        | _ => false
      if !briefly then putBack t
      let t ← nextToken deeper .command
      putBack t
      if isEmptyPipeline t then return .timed briefly noCommand
      else return .timed briefly (← pipelineIn n {})
    else
      putBack t
      stages deeper {}

def pipeline (e : Expected) : ReadM Statement := do pipelineIn deeper (← bound) e

/-- Pipelines of which each is run depending on the one before. -/
def chain : ReadM Statement := do
  let first ← pipeline deeper {}
  untilDone first fun (s : Statement) => do
    let t ← plainToken deeper
    if t.isMark "&&" then return .inl (.both s (← pipeline deeper .commandOnAnyLine))
    else if t.isMark "||" then return .inl (.either s (← pipeline deeper .commandOnAnyLine))
    else
      putBack t
      return .inr s

def ofBack (back : List Statement) : Statement :=
  match back with
  | [s] => s
  | _ => .block back.reverse

/-- The commands of a list. What ends it is put back, the end of a line apart. -/
def list (k : ListKind) : ReadM Statement :=
  let nested := nestedIn deeper
  untilDone [] fun (back : List Statement) => do
    let line := (← get).line
    let t ← nextToken deeper ⟨k != .line, true, true⟩
    match t with
    | .newline =>
      readDocuments nested
      return .inr (ofBack back)
    | .ending =>
      readDocuments nested
      putBack t
      return .inr (ofBack back)
    | _ =>
      putBack t
      if t.endsList && (k == .any || (k == .filled && !back.isEmpty)) then return .inr (ofBack back)
      else
        let s ← chain deeper
        let t ← plainToken deeper
        if t.isMark "&" then return .inl (.background line s :: back)
        else if t.isMark ";" then return .inl (s :: back)
        else match t with
          | .newline =>
            putBack t
            return .inl (s :: back)
          | .ending =>
            readDocuments nested
            putBack t
            return .inr (ofBack (s :: back))
          | _ =>
            if k = .line then unexpected t none
            else
              putBack t
              return .inr (ofBack (s :: back))

/-- Reads one level. -/
def readGoal : Reader
  | .list k => list deeper k
  | .command e => command deeper e

/-- Reads commands that nest at most `depth` deep. -/
def reader : (depth : Nat) → Goal → ReadM Statement
  | 0, _ => fail "end of file unexpected"
  | n + 1, goal => readGoal (reader n) goal

/-- The next complete command; `none` at the end of the text. -/
def nextCommand? (r : Reading) : Except (SyntaxError × Reading) (Option Statement × Reading) :=
  if r.rest = [] then .ok (none, r)
  else match reader (r.rest.length + 2) (.list .line)
      { r with back := none, whole := r.rest, firstLine := r.line, tokenAt := r.rest } with
    | .ok s r => .ok (some s, r)
    | .error e r => .error (e, r)

end KarelBuild.Shell
