import KarelBuild.Shell.Utility.Records.Token

/-!
# Reading programs for records

Mistakes are noted, and reading goes on behind the statement or the rule that they are in. What is wrong with
names is told too: a name is that of a value or of a table, and functions have to be there.
-/

namespace KarelBuild.Shell.Records

/-- What a name has turned out to be. -/
inductive NameKind where
  | value
  | table
  deriving DecidableEq, Repr

structure Called where
  name : Text
  args : Nat
  line : Nat

structure Reader where
  lexemes : List Lexeme
  /-- What stands in front of the line in complaints: the file that is read. -/
  lead : Octets := []
  /-- The last complaint first. -/
  complaints : List Octets := []
  /-- How many tokens have been taken since a mistake, as far as that matters. -/
  sinceMistake : Nat := 3
  kinds : List (Text × NameKind) := []
  /-- Names of functions, and the parameters of the one that is read. -/
  functions : List Text := []
  params : List Text := []
  inFunction : Bool := false
  isRecordRule : Bool := true
  loops : Nat := 0
  calls : List Called := []
  /-- Whether what is read next may be given a value. -/
  mayAssign : Bool := false

/-- Why reading cannot go on as it did. -/
inductive Stop where
  | mistake
  | runaway

abbrev ReadProgram := EStateM Stop Reader

def lineNow : ReadProgram Nat := do return ((← get).lexemes.head?.map Lexeme.line).getD 1

def noteAt (line : Nat) (message : Octets) : ReadProgram Unit :=
  modify fun s => { s with
    complaints := (s.lead ++ "line ".toList ++ Text.ofNat line ++ ": ".toList ++ message) :: s.complaints }

def note (message : Octets) : ReadProgram Unit := do noteAt (← lineNow) message

/-- Note brackets that close nothing, and pass over them. -/
def passExtra : (lexemes : List Lexeme) → ReadProgram Unit
  | [] => return
  | l :: rest =>
    match l.token with
    | .extra c => do
      noteAt l.line ("extra '".toList ++ [c, '\''])
      modify fun s => { s with lexemes := rest }
      passExtra rest
    | _ => return

def peekLexeme : ReadProgram Lexeme := do
  passExtra (← get).lexemes
  match (← get).lexemes with
  | l :: _ =>
    match l.token with
    | .runaway kind o =>
      noteAt l.line ("runaway ".toList ++ kind.toList ++ ' ' :: o ++ " ...".toList)
      throw .runaway
    | _ => return l
  | [] => return ⟨.finish, 1, "end of file".toList, false⟩

def peek : ReadProgram Token := do return (← peekLexeme).token

def skip : ReadProgram Unit := do
  let l ← peekLexeme
  match l.token with
  | .finish => return
  | _ => modify fun s => { s with lexemes := s.lexemes.drop 1, sinceMistake := s.sinceMistake + 1 }

/-- What stands behind the next token. -/
def peekSecond : ReadProgram Token := do
  let _ ← peekLexeme
  return (((← get).lexemes.drop 1).head?.map Lexeme.token).getD .finish

/-- A token that does not belong where it is. -/
def mistake {α : Type} : ReadProgram α := do
  let l ← peekLexeme
  if 3 ≤ (← get).sinceMistake then
    let closes : Bool := match l.token with
      | .mark s => s == ";" || s == "\x7d"
      | .newline => true
      | _ => false
    match l.token with
    | .unexpected c =>
      let shown := if ' ' ≤ c ∧ c ≤ '~' then ['\'', c, '\''] else "0x".toList ++ Nat.toDigits 16 c.toNat
      modify fun s => { s with
        complaints := (Text.ofNat l.line ++ ": unexpected character ".toList ++ shown) :: s.complaints }
    | .finish => note ("missing \x7d near ".toList ++ l.shown)
    | _ =>
      if closes ∧ l.inParens ∧ (← get).complaints = [] then note ("missing ) near ".toList ++ l.shown)
      else note ("syntax error at or near ".toList ++ l.shown)
  modify fun s => { s with sinceMistake := 0 }
  throw .mistake

def isMark (t : Token) (s : String) : Bool :=
  match t with
  | .mark m => m == s
  | _ => false

def isWord (t : Token) (s : String) : Bool :=
  match t with
  | .word w => w == s
  | _ => false

def expect (s : String) : ReadProgram Unit := do
  if isMark (← peek) s then skip else mistake

def isNewline : Token → Bool
  | .newline => true
  | _ => false

def skipNewlines : ReadProgram Unit := do
  let n := ((← get).lexemes.takeWhile fun l => isNewline l.token).length
  modify fun s => { s with lexemes := s.lexemes.drop n }

/-- Note what a name is used as. -/
def noteKind (name : Text) (kind : NameKind) : ReadProgram Unit := do
  let s ← get
  if s.params.contains name then return
  match s.kinds.lookup name with
  | none => set { s with kinds := (name, kind) :: s.kinds }
  | some known =>
    if known ≠ kind then
      note ((if known = .table then "illegal reference to array " else "illegal reference to variable ").toList ++ name)

/-! ## Expressions -/

section

variable (deeper : (inPrint : Bool) → ReadProgram Expr)

/-- Expressions between commas, up to a closing mark. -/
def listUpTo (stop : String) : (steps : Nat) → ReadProgram (List Expr)
  | 0 => mistake
  | n + 1 => do
    let e ← deeper false
    if isMark (← peek) "," then
      skip
      skipNewlines
      return e :: (← listUpTo stop n)
    else
      expect stop
      return [e]

def someList (stop : String) : ReadProgram (List Expr) := do
  listUpTo deeper stop ((← get).lexemes.length + 1)

/-- The arguments of a call, in which a name alone may be that of a table. -/
def arguments : (steps : Nat) → ReadProgram (List Expr)
  | 0 => mistake
  | n + 1 => do
    let e ← match ← peek with
      | .name t =>
        let second ← peekSecond
        if isMark second "," || isMark second ")" then
          skip
          pure (Expr.name t)
        else deeper false
      | _ => deeper false
    if isMark (← peek) "," then
      skip
      skipNewlines
      return e :: (← arguments n)
    else
      expect ")"
      return [e]

def bracketedArguments : ReadProgram (List Expr) := do
  expect "("
  if isMark (← peek) ")" then
    skip
    return []
  else arguments deeper ((← get).lexemes.length + 1)

/-- A name that may have a subscript. -/
def variableNamed (t : Text) : ReadProgram Expr := do
  if isMark (← peek) "[" then
    noteKind t .table
    skip
    return .member t (← someList deeper "]")
  else
    noteKind t .value
    return .name t

def readRegex (line : Nat) (o : Octets) : ReadProgram Expr := do
  match patternOf? o with
  | .ok r => return .regex r
  | .error e =>
    noteAt line ("regular expression compile failed (".toList ++ e.toList ++ ")\n".toList ++ o)
    return .regex .empty

/-- An expression as a pattern: text that is given as such is read at once. -/
def patternExpr (line : Nat) (e : Expr) : ReadProgram Expr :=
  match e with
  | .text o => readRegex line o
  | e => return e

/-- A call of a function that there always is. -/
def builtinCall (s : String) : ReadProgram Expr := do
  let line ← lineNow
  skip
  if s = "length" ∧ !isMark (← peek) "(" then return .builtin s []
  else
    let args ← bracketedArguments deeper
    match builtins.lookup s with
    | some (low, high) =>
      if args.length < low ∨ high < args.length then
        noteAt line ("wrong number of arguments in call to ".toList ++ s.toList)
    | none => pure ()
    match s, args with
    | "split", o :: .name t :: rest =>
      noteKind t .table
      match rest with
      | [.text (c :: d :: r)] => return .builtin s [o, .name t, ← readRegex line (c :: d :: r)]
      | _ => return .builtin s args
    | "match", [o, e] => return .builtin s [o, ← patternExpr line e]
    | "sub", e :: rest => return .builtin s ((← patternExpr line e) :: rest)
    | "gsub", e :: rest => return .builtin s ((← patternExpr line e) :: rest)
    | _, _ => return .builtin s args

def operatorOf? : Token → Option Operator
  | .mark "+=" => some .add
  | .mark "-=" => some .subtract
  | .mark "*=" => some .multiply
  | .mark "/=" => some .divide
  | .mark "%=" => some .remainder
  | .mark "^=" => some .power
  | _ => none

def isPlace : Expr → Bool
  | .name _ => true
  | .member _ _ => true
  | .field _ => true
  | _ => false

/-- What may stand behind a variable: a step up or down, or an assignment. -/
def behindPlace (inPrint mayAssign : Bool) (e : Expr) : ReadProgram Expr := do
  let t ← peek
  if isMark t "++" then
    skip
    return .step .add true e
  else if isMark t "--" then
    skip
    return .step .subtract true e
  else if !mayAssign then return e
  else if isMark t "=" then
    skip
    return .assign e (← deeper inPrint)
  else match operatorOf? t with
    | some op =>
      skip
      return .update op e (← deeper inPrint)
    | none => return e

/-- An operand without what may stand behind it. -/
def bare : (steps : Nat) → ReadProgram Expr
  | 0 => mistake
  | n + 1 => do
    match ← peek with
    | .number x =>
      skip
      return .number x
    | .text o =>
      skip
      return .text o
    | .regex o =>
      let line ← lineNow
      skip
      readRegex line o
    | .name t =>
      skip
      if (← get).functions.contains t && isMark (← peek) "(" then
        let line ← lineNow
        let args ← bracketedArguments deeper
        modify fun s => { s with calls := ⟨t, args.length, line⟩ :: s.calls }
        return .call t args
      else variableNamed deeper t
    | .call t =>
      let line ← lineNow
      skip
      let s ← get
      if s.params.contains t || (!s.functions.contains t && (s.kinds.lookup t).isSome) then variableNamed deeper t
      else
      let args ← bracketedArguments deeper
      modify fun s => { s with calls := ⟨t, args.length, line⟩ :: s.calls }
      return .call t args
    | .builtin s => builtinCall deeper s
    | .mark "$" =>
      skip
      let t ← peek
      if isMark t "-" then
        skip
        return .field (.minus (← bare n))
      else if isMark t "++" || isMark t "--" then
        skip
        return .field (.step (if isMark t "++" then .add else .subtract) false (← bare n))
      else return .field (← bare n)
    | .mark "(" =>
      skip
      let es ← someList deeper ")"
      match es with
      | [.field i] => return .field i
      | [e] => return if isPlace e then .grouped e else e
      | es =>
        if isWord (← peek) "in" then
          skip
          match ← peek with
          | .name t =>
            skip
            noteKind t .table
            return .has t es
          | _ => mistake
        else mistake
    | _ => mistake

/-- The source of a record that is asked for by a command. -/
def commandTakes (operand : ReadProgram Expr) (inPrint : Bool) : (steps : Nat) → Expr → ReadProgram Expr
  | 0, e => return e
  | n + 1, e => do
    if !inPrint && isMark (← peek) "|" then
      if isWord (← peekSecond) "getline" then
        skip
        skip
        let target ← placeAhead? operand
        commandTakes operand inPrint n (.take .command (some e) target)
      else return e
    else return e
where
  /-- The variable that follows, if one does. -/
  placeAhead? (operand : ReadProgram Expr) : ReadProgram (Option Expr) := do
    match ← peek with
    | .name _ => return some (← operand)
    | .mark "$" => return some (← operand)
    | _ => return none

/-- An operand with what may stand behind it. -/
def operand (inPrint : Bool) : (steps : Nat) → ReadProgram Expr
  | 0 => mistake
  | n + 1 => do
    let t ← peek
    let mayAssign := (← get).mayAssign
    modify fun s => { s with mayAssign := false }
    if isMark t "++" || isMark t "--" then
      skip
      match ← peek with
      | .name _ => pure ()
      | u => if !isMark u "$" && !isMark u "(" then mistake
      let e ← bare deeper (n + 1)
      if isPlace e then return .step (if isMark t "++" then .add else .subtract) false e else mistake
    else if isWord t "getline" then
      skip
      let target ← commandTakes.placeAhead? (bare deeper (n + 1))
      if isMark (← peek) "<" then
        skip
        return .take .file (some (← operand inPrint n)) target
      else return .take .input none target
    else
      let e ← bare deeper (n + 1)
      if isPlace e then behindPlace deeper inPrint mayAssign e else return e

mutual

/-- A power, whose exponent may be one too. -/
def powered (inPrint : Bool) : (steps : Nat) → ReadProgram Expr
  | 0 => mistake
  | n + 1 => do
    let e ← operand deeper inPrint (n + 1)
    if isMark (← peek) "^" then
      skip
      return .calculation .power e (← signed inPrint n)
    else return e

/-- An operand behind signs. -/
def signed (inPrint : Bool) : (steps : Nat) → ReadProgram Expr
  | 0 => mistake
  | n + 1 => do
    let t ← peek
    if ["!", "-", "+"].any (isMark t) then modify fun s => { s with mayAssign := false }
    if isMark t "!" then
      skip
      return .not (← signed inPrint n)
    else if isMark t "-" then
      skip
      return .minus (← signed inPrint n)
    else if isMark t "+" then
      skip
      return .plus (← signed inPrint n)
    else
      let e ← powered inPrint n
      commandTakes (bare deeper (n + 1)) inPrint (n + 1) e

end

/-- Operands between operators, of which the ones before are put together first. -/
def leftToRight (next : ReadProgram Expr) (join? : Token → Option (Expr → Expr → Expr)) :
    (steps : Nat) → Expr → ReadProgram Expr
  | 0, e => return e
  | n + 1, e => do
    match join? (← peek) with
    | some join =>
      skip
      leftToRight next join? n (join e (← next))
    | none => return e

def level (next : ReadProgram Expr) (join? : Token → Option (Expr → Expr → Expr)) : ReadProgram Expr := do
  let e ← next
  leftToRight next join? ((← get).lexemes.length + 1) e

def product (inPrint : Bool) : ReadProgram Expr := do
  let n := (← get).lexemes.length + 1
  level (signed deeper inPrint (2 * n)) fun t =>
    match t with
    | .mark "*" => some (.calculation .multiply)
    | .mark "/" => some (.calculation .divide)
    | .mark "%" => some (.calculation .remainder)
    | _ => none

def sum (inPrint : Bool) : ReadProgram Expr :=
  level (product deeper inPrint) fun t =>
    match t with
    | .mark "+" => some (.calculation .add)
    | .mark "-" => some (.calculation .subtract)
    | _ => none

/-- Whether an operand begins with a token, so that it is joined to what stands before. -/
def beginsOperand : Token → Bool
  | .number _ => true
  | .text _ => true
  | .name _ => true
  | .call _ => true
  | .builtin _ => true
  | .mark s => ["(", "$", "!", "++", "--"].contains s
  | _ => false

def joinedUp (inPrint : Bool) : (steps : Nat) → Expr → ReadProgram Expr
  | 0, e => return e
  | n + 1, e => do
    if beginsOperand (← peek) then joinedUp inPrint n (.joined e (← sum deeper inPrint)) else return e

def joinedOperands (inPrint : Bool) : ReadProgram Expr := do
  modify fun s => { s with mayAssign := true }
  let e ← sum deeper inPrint
  modify fun s => { s with mayAssign := false }
  joinedUp deeper inPrint ((← get).lexemes.length + 1) e

def compared (inPrint : Bool) : ReadProgram Expr :=
  level (joinedOperands deeper inPrint) fun t =>
    match t with
    | .mark "<" => some (.comparison .less)
    | .mark "<=" => some (.comparison .atMost)
    | .mark "==" => some (.comparison .equal)
    | .mark "!=" => some (.comparison .unequal)
    | .mark ">" => if inPrint then none else some (.comparison .greater)
    | .mark ">=" => some (.comparison .atLeast)
    | _ => none

def matchedUp (inPrint : Bool) : (steps : Nat) → Expr → ReadProgram Expr
  | 0, e => return e
  | n + 1, e => do
    let t ← peek
    if isMark t "~" || isMark t "!~" then
      let line ← lineNow
      skip
      let pattern ← patternExpr line (← compared deeper inPrint)
      matchedUp inPrint n (.hits (isMark t "~") e pattern)
    else return e

def matched (inPrint : Bool) : ReadProgram Expr := do
  let e ← compared deeper inPrint
  matchedUp deeper inPrint ((← get).lexemes.length + 1) e

def containedIn : (steps : Nat) → Expr → ReadProgram Expr
  | 0, e => return e
  | n + 1, e => do
    if isWord (← peek) "in" then
      skip
      match ← peek with
      | .name t =>
        skip
        noteKind t .table
        containedIn n (.has t [e])
      | _ => mistake
    else return e

def contained (inPrint : Bool) : ReadProgram Expr := do
  let e ← matched deeper inPrint
  containedIn ((← get).lexemes.length + 1) e

/-- Conditions that have to hold together; a line may end behind the mark between them. -/
def allOf (inPrint : Bool) : (steps : Nat) → ReadProgram Expr
  | 0 => mistake
  | n + 1 => do
    let e ← contained deeper inPrint
    conjoin n e
where
  conjoin : Nat → Expr → ReadProgram Expr
    | 0, e => return e
    | n + 1, e => do
      if isMark (← peek) "&&" then
        skip
        skipNewlines
        conjoin n (.and e (← contained deeper inPrint))
      else return e

def anyOf (inPrint : Bool) : ReadProgram Expr := do
  let n := (← get).lexemes.length + 1
  disjoin n (← allOf deeper inPrint n)
where
  disjoin : Nat → Expr → ReadProgram Expr
    | 0, e => return e
    | n + 1, e => do
      if isMark (← peek) "||" then
        skip
        skipNewlines
        disjoin n (.or e (← allOf deeper inPrint (n + 1)))
      else return e

def chosen (inPrint : Bool) : ReadProgram Expr := do
  let e ← anyOf deeper inPrint
  if isMark (← peek) "?" then
    skip
    let yes ← deeper inPrint
    expect ":"
    return .choice e yes (← deeper inPrint)
  else return e

end

/-- An expression whose parts nest at most `depth` deep. -/
def expressionFrom : (depth : Nat) → (inPrint : Bool) → ReadProgram Expr
  | 0, _ => mistake
  | n + 1, inPrint => chosen (expressionFrom n) inPrint

def expressionIn (inPrint : Bool) : ReadProgram Expr := do
  expressionFrom ((← get).lexemes.length + 1) inPrint

def expression : ReadProgram Expr := expressionIn false

/-! ## Statements -/

/-- The end of a statement: a semicolon, the end of a line, or a closing brace that is left. -/
def endStatement : ReadProgram Unit := do
  match ← peek with
  | .mark ";" =>
    skip
    skipNewlines
  | .newline => skipNewlines
  | .mark "\x7d" => return
  | _ => mistake

def isEnd : Token → Bool
  | .mark s => s == ";" || s == "\x7d"
  | .newline => true
  | _ => false

def channel? : Token → Option Channel
  | .mark ">" => some .file
  | .mark ">>" => some .fileEnd
  | .mark "|" => some .command
  | _ => none

def printList : (steps : Nat) → ReadProgram (List Expr)
  | 0 => mistake
  | n + 1 => do
    let e ← expressionIn true
    if isMark (← peek) "," then
      skip
      skipNewlines
      return e :: (← printList n)
    else return [e]

/-- What is printed: a list that may stand in parentheses as a whole. -/
def printArguments : ReadProgram (List Expr) := do
  let t ← peek
  if isEnd t || (channel? t).isSome then return []
  else
    let s ← get
    let n := s.lexemes.length + 1
    if isMark t "(" then
      skip
      if isMark (← peek) ")" then
        skip
        return []
      else
        let es ← someList (expressionFrom n) ")"
        let t ← peek
        if isEnd t || (channel? t).isSome then return es
        else if es.length > 1 && !isWord t "in" then mistake
        else
          set s
          printList n
    else printList n

def printStatement (formatted : Bool) : ReadProgram Statement := do
  skip
  let args ← printArguments
  if formatted ∧ args = [] then note "no arguments in call to printf".toList
  let target ← match channel? (← peek) with
    | some c =>
      skip
      pure (some (c, ← expressionIn true))
    | none => pure none
  endStatement
  return .print formatted args target

/-- A condition in parentheses, behind which a line may end. -/
def condition : ReadProgram Expr := do
  expect "("
  let e ← expression
  expect ")"
  return e

def inLoop (m : ReadProgram Statement) : ReadProgram Statement := do
  modify fun s => { s with loops := s.loops + 1 }
  let body ← m
  modify fun s => { s with loops := s.loops - 1 }
  return body

/-- Go on behind the statement that a mistake is in. -/
def passMistake : (steps : Nat) → ReadProgram Unit
  | 0 => return
  | n + 1 => do
    match ← peek with
    | .finish => return
    | .mark "\x7d" => return
    | .mark ";" => endStatement
    | .newline => endStatement
    | _ =>
      modify fun s => { s with lexemes := s.lexemes.drop 1 }
      passMistake n

section

variable (statement : ReadProgram Statement)

/-- Statements up to a closing brace. -/
def statements : (steps : Nat) → ReadProgram (List Statement)
  | 0 => mistake
  | n + 1 => do
    match ← peek with
    | .mark "\x7d" =>
      skip
      return []
    | .finish => mistake
    | _ =>
      let first ← attemptStatement
      return first :: (← statements n)
where
  attemptStatement : ReadProgram Statement := tryCatch statement fun stop =>
    match stop with
    | .mistake => do
      passMistake ((← get).lexemes.length + 1)
      modify fun s => { s with sinceMistake := 3 }
      match ← peek with
      | .finish => throw .mistake
      | _ => return .block []
    | .runaway => throw .runaway

def blockOf : ReadProgram Statement := do
  expect "\x7b"
  skipNewlines
  return .block (← statements statement ((← get).lexemes.length + 1))

/-- A statement that belongs to the line in front of it. -/
def dependent : ReadProgram Statement := do
  skipNewlines
  statement

def forStatement : ReadProgram Statement := do
  skip
  expect "("
  let s ← get
  let keys : Option (Text × Text) := match s.lexemes.map Lexeme.token with
    | .name k :: .word "in" :: .name t :: .mark ")" :: _ => some (k, t)
    | _ => none
  match keys with
  | some (k, t) =>
    noteKind k .value
    noteKind t .table
    modify fun s => { s with lexemes := s.lexemes.drop 4 }
    return .forEach k t (← inLoop (dependent statement))
  | none =>
    let optional (stop : String) : ReadProgram (Option Expr) := do
      if isMark (← peek) stop then
        skip
        return none
      else
        let e ← expression
        expect stop
        return some e
    let start ← optional ";"
    skipNewlines
    let test ← optional ";"
    skipNewlines
    let step ← optional ")"
    return .forLoop start test step (← inLoop (dependent statement))

/-- A statement that leaves something, where that can be left. -/
def leaving (isThere : Bool) (complaint : String) (s : Statement) : ReadProgram Statement := do
  if !isThere then note complaint.toList
  skip
  endStatement
  return s

def optionalValue : ReadProgram (Option Expr) := do
  if isEnd (← peek) then return none else return some (← expression)

def deleteStatement : ReadProgram Statement := do
  skip
  match ← peek with
  | .name t =>
    skip
    noteKind t .table
    let keys ← if isMark (← peek) "[" then
        skip
        pure (some (← someList (expressionFrom ((← get).lexemes.length + 1)) "]"))
      else pure none
    endStatement
    return .delete t keys
  | _ => mistake

def doStatement : ReadProgram Statement := do
  skip
  let body ← inLoop (dependent statement)
  if !isWord (← peek) "while" then mistake
  skip
  let test ← condition
  endStatement
  return .doLoop body test

def ifStatement : ReadProgram Statement := do
  skip
  let test ← condition
  let yes ← dependent statement
  if isWord (← peek) "else" then
    skip
    return .choice test yes (some (← dependent statement))
  else return .choice test yes none

def anyStatement : ReadProgram Statement := do
  let s ← get
  match ← peek with
  | .mark "\x7b" =>
    let b ← blockOf statement
    skipNewlines
    return b
  | .mark ";" =>
    endStatement
    return .block []
  | .newline =>
    endStatement
    return .block []
  | .word w =>
    match w with
    | "print" => printStatement false
    | "printf" => printStatement true
    | "if" => ifStatement statement
    | "while" =>
      skip
      let test ← condition
      return .whileLoop test (← inLoop (dependent statement))
    | "do" => doStatement statement
    | "for" => forStatement statement
    | "break" => leaving (s.loops > 0) "break statement outside of loop" .endLoop
    | "continue" => leaving (s.loops > 0) "continue statement outside of loop" .nextRound
    | "next" => leaving s.isRecordRule "improper use of next" .nextRecord
    | "nextfile" => leaving s.isRecordRule "improper use of nextfile" .nextFile
    | "exit" =>
      skip
      let code ← optionalValue
      endStatement
      return .exit code
    | "return" =>
      if !s.inFunction then note "return outside function body".toList
      skip
      let value ← optionalValue
      endStatement
      return .result value
    | "delete" => deleteStatement
    | "getline" => valueStatement
    | _ => mistake
  | _ => valueStatement
where
  valueStatement : ReadProgram Statement := do
    let e ← expression
    endStatement
    return .value e

end

/-- A statement whose parts nest at most `depth` deep. -/
def statementFrom : (depth : Nat) → ReadProgram Statement
  | 0 => mistake
  | n + 1 => anyStatement (statementFrom n)

def block : ReadProgram Statement := do
  let n := (← get).lexemes.length + 1
  let b ← blockOf (statementFrom n)
  -- A semicolon may follow where the line goes on.
  match (← get).lexemes with
  | ⟨.mark ";", _, _, _⟩ :: _ => skip
  | _ => pure ()
  skipNewlines
  return b

/-! ## Rules and functions -/

/-- The parameters of a function, up to the closing parenthesis. -/
def parameters (function : Text) : (steps : Nat) → (known : List Text) → ReadProgram (List Text)
  | 0, _ => mistake
  | n + 1, known => do
    match ← peek with
    | .name t =>
      if t = function then
        note "function parameter cannot be the function".toList
        mistake
      if known.contains t then note (t ++ " is duplicated in argument list".toList)
      skip
      if isMark (← peek) "," then
        skip
        skipNewlines
        return t :: (← parameters function n (t :: known))
      else
        expect ")"
        return [t]
    | _ => mistake

def functionRule : ReadProgram Function := do
  skip
  let name ← match ← peek with
    | .name t => pure t
    | .call t => pure t
    | _ => mistake
  if ((← get).kinds.lookup name).isSome then note ("illegal reference to variable ".toList ++ name)
  let isKnown := (← get).functions.contains name
  if isKnown ∧ (← get).calls.any (fun c => c.name == name && c.line == 0) then
    note ("redefinition of ".toList ++ name)
  skip
  expect "("
  let params ← if isMark (← peek) ")" then
      skip
      pure []
    else parameters name ((← get).lexemes.length + 1) []
  skipNewlines
  modify fun s => { s with params, inFunction := true, isRecordRule := false, calls := ⟨name, 0, 0⟩ :: s.calls }
  let body ← block
  modify fun s => { s with params := [], inFunction := false, isRecordRule := true }
  return ⟨name, params, body⟩

/-- The body of a rule, which may be missing. -/
def bodyBehind : ReadProgram (Option Statement) := do
  match ← peek with
  | .mark "\x7b" => return some (← block)
  | .mark ";" =>
    endStatement
    return none
  | .newline =>
    endStatement
    return none
  | _ => mistake

def patternRule : ReadProgram Rule := do
  let first ← expression
  if isMark (← peek) "," then
    skip
    skipNewlines
    let last ← expression
    return ⟨.range first last, ← bodyBehind⟩
  else return ⟨.single first, ← bodyBehind⟩

/-- A rule or a function, added to a program. -/
def item (p : Program) : ReadProgram Program := do
  let fixed (pattern : Pattern) : ReadProgram Program := do
    skip
    modify fun s => { s with isRecordRule := false }
    let body ← block
    modify fun s => { s with isRecordRule := true }
    return { p with rules := p.rules ++ [⟨pattern, some body⟩] }
  match ← peek with
  | .word "BEGIN" => fixed .start
  | .word "END" => fixed .finish
  | .word "function" => return { p with functions := p.functions ++ [← functionRule] }
  | .mark "\x7b" => return { p with rules := p.rules ++ [⟨.always, some (← block)⟩] }
  | _ => return { p with rules := p.rules ++ [← patternRule] }

/-- Go on where the next body begins. -/
def passRule : (steps : Nat) → ReadProgram Unit
  | 0 => return
  | n + 1 => do
    match ← peek with
    | .finish => return
    | .mark "\x7b" => return
    | _ =>
      modify fun s => { s with lexemes := s.lexemes.drop 1, params := [], inFunction := false, isRecordRule := true,
                               loops := 0 }
      passRule n

/-- A brace that closes nothing, behind which the line may not end. -/
def passExtraBrace : ReadProgram Unit := do
  match (← get).lexemes with
  | ⟨.extra _, _, _, _⟩ :: ⟨.newline, _, _, _⟩ :: _ =>
    passExtra (← get).lexemes
    note "syntax error at or near end of line".toList
    skipNewlines
  | _ => return

def items : (steps : Nat) → Program → ReadProgram Program
  | 0, p => return p
  | n + 1, p => do
    passExtraBrace
    match ← peek with
    | .finish => return p
    | _ =>
      let p ← tryCatch (item p) fun stop =>
        match stop with
        | .mistake => do
          passRule ((← get).lexemes.length + 1)
          return p
        | .runaway => throw .runaway
      items n p

/-- Functions that are called and not there, and calls with too many arguments. -/
def checkCalls (p : Program) (lastLine : Nat) : ReadProgram Unit := do
  let s ← get
  s.calls.reverse.forM fun c => do
    if c.line ≠ 0 then
      match p.functions.find? (·.name == c.name) with
      | none => noteAt lastLine ("function ".toList ++ c.name ++ " never defined".toList)
      | some f =>
        if f.params.length < c.args then noteAt c.line ("too many arguments in call to ".toList ++ c.name)

/-- The names of the functions that a program has. -/
def functionNames : List Token → List Text
  | .word "function" :: .name t :: rest => t :: functionNames rest
  | .word "function" :: .call t :: rest => t :: functionNames rest
  | _ :: rest => functionNames rest
  | [] => []

def readPart (p : Program) (lexemes : List Lexeme) (lead : Octets) : ReadProgram Program := do
  modify fun s => { s with lexemes := lexemes.dropWhile fun l => isNewline l.token, lead }
  items (lexemes.length + 1) p

/-- Read a program from its parts, each with the file that it is from. Gives the complaints if there are any. -/
def programOf? (parts : List (Option Octets × Octets)) : Except (List Octets) Program :=
  let read := parts.map fun (file, t) => (file, tokensOf t)
  let functions := functionNames (read.flatMap fun (_, ls) => ls.map Lexeme.token)
  let all : ReadProgram Program := do
    let p ← read.foldlM (fun p (file, ls) => readPart p ls (file.elim [] (· ++ ": ".toList))) {}
    let lastLine := (read.getLast?.bind fun (_, ls) => ls.getLast?.map Lexeme.line).getD 1
    if (← get).complaints = [] then checkCalls p lastLine
    return p
  let values := ["NR", "NF", "FNR", "FS", "OFS", "RS", "ORS", "FILENAME", "SUBSEP", "RSTART", "RLENGTH", "CONVFMT",
    "OFMT", "ARGC"]
  let kinds := values.map (fun t => (t.toList, NameKind.value)) ++
    [("ARGV".toList, NameKind.table), ("ENVIRON".toList, NameKind.table)]
  match all.run { lexemes := [], functions, kinds } with
  | .ok p s => if s.complaints = [] then .ok p else .error s.complaints.reverse
  | .error _ s => .error s.complaints.reverse

end KarelBuild.Shell.Records
