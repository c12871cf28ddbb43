import KarelBuild.Shell.Arithmetic

/-!
# Calculation

Expressions of the rich dialect are worked out while they are read: variables may hold expressions, be counted
up and down, and be places of lists. What need not be worked out is read without effect. A mistake is told with
the text from the last token on.
-/

namespace KarelBuild.Shell.Calculation

open ShellM Arithmetic

/-! ## Tokens -/

inductive Token where
  | number (t : Text)
  | name (t : Text) (sub : Option Text)
  | mark (t : String)
  | stray
  deriving DecidableEq

def marks : List String :=
  ["<<=", ">>=", "**", "&&", "||", "==", "!=", "<=", ">=", "<<", ">>", "*=", "/=", "%=", "+=", "-=", "&=",
    "^=", "|=", "<", ">", "=", "+", "-", "*", "/", "%", "!", "~", "(", ")", "&", "|", "^", "?", ":", ","]

def isSpace (c : Char) : Bool := c == ' ' || c == '\t' || c == '\n'

def isDigitMark (c : Char) : Bool := c.isAlphanum || c == '#' || c == '@' || c == '_'

/-- The text between brackets behind the one that opens, and what follows. -/
def bracketed? : (level : Nat) → Text → Option (Text × Text)
  | _, [] => none
  | level, c :: r =>
    if c = ']' ∧ level = 0 then some ([], r)
    else
      let level := if c = '[' then level + 1 else if c = ']' then level - 1 else level
      (bracketed? level r).map fun (inside, rest) => (c :: inside, rest)

/-- The token in front of a text, and what follows. Two signs count only beside a name. -/
def nextToken (afterName : Bool) (t : Text) : Token × Text :=
  match t with
  | [] => (.stray, [])
  | c :: r =>
    let twice := (c = '+' ∨ c = '-') ∧ r.head? = some c
    if c.isDigit then (.number (t.takeWhile isDigitMark), t.dropWhile isDigitMark)
    else if isNameStart c then
      let name := t.takeWhile isNameChar
      match t.drop name.length with
      | '[' :: behind =>
        match bracketed? 0 behind with
        | some (inside, rest) => (.name name (some inside), rest)
        | none => (.name name none, '[' :: behind)
      | rest => (.name name none, rest)
    else if twice ∧ (afterName ∨ ((r.drop 1).dropWhile isSpace).head?.any isNameStart) then
      (.mark (if c = '+' then "++" else "--"), r.drop 1)
    else match marks.find? fun m => m.toList.isPrefixOf t with
      | some m => (.mark m, t.drop m.length)
      | none => (.stray, r)

/-- All tokens, each with the text from it on. -/
def tokensFrom : (steps : Nat) → (afterName : Bool) → Text → List (Token × Text)
  | 0, _, _ => []
  | n + 1, afterName, t =>
    match t.dropWhile isSpace with
    | [] => []
    | c :: r =>
      let (token, rest) := nextToken afterName (c :: r)
      (token, c :: r) :: tokensFrom n (token matches .name _ _) rest

/-- What is left to read, and the text from the last token on. -/
structure Cursor where
  tokens : List (Token × Text)
  last : Text

abbrev CalcM := StateT Cursor ShellM

def startOf (t : Text) : Cursor :=
  let tokens := tokensFrom (t.length + 1) false t
  ⟨tokens, (tokens.head?.map (·.2)).getD []⟩

def current : CalcM (Option Token) := do return (← get).tokens.head?.map (·.1)

def advance : CalcM Unit := modify fun k =>
  let tokens := k.tokens.drop 1
  ⟨tokens, (tokens.head?.map (·.2)).getD k.last⟩

def currentMark : CalcM String := do
  match ← current with
  | some (.mark m) => return m
  | _ => return ""

/-! ## Mistakes -/

def complainAt {α : Type} (source : Text) (message : String) (token : Text) : ShellM α :=
  refuse (source.dropWhile isSpace ++ ": ".toList ++ message.toList ++ " (error token is \"".toList ++ token ++
    "\")".toList)

def mistake {α : Type} (source : Text) (message : String) : CalcM α := do
  complainAt source message (← get).last

/-- What is wrong with a token that is out of place. -/
def mistakeHere {α : Type} (source : Text) (afterValue : Bool) : CalcM α := do
  let isStray := (← current) == some .stray
  mistake source (if isStray && afterValue then "syntax error: invalid arithmetic operator"
    else if afterValue then "syntax error in expression" else "syntax error: operand expected")

/-! ## Numbers -/

def digitIn (base : Nat) (c : Char) : Nat :=
  if c.isDigit then c.toNat - '0'.toNat
  else if c.isLower then c.toNat - 'a'.toNat + 10
  else if c.isUpper then c.toNat - 'A'.toNat + (if base ≤ 36 then 10 else 36)
  else if c = '@' then 62
  else if c = '_' then 63
  else 99

/-- The number that digits of a base spell, or what is wrong with them. -/
def ofDigits (base : Nat) (digits : Text) : Except String Int :=
  if digits.any fun c => base ≤ digitIn base c then .error "value too great for base"
  else .ok (wrap (digits.foldl (fun n c => n * base + digitIn base c) 0 : Nat))

def numberOf (t : Text) : Except String Int :=
  match Text.cut '#' t with
  | (base, some digits) =>
    let b := valueIn 10 base
    if !base.all Char.isDigit then .error "value too great for base"
    else if b < 2 ∨ 64 < b then .error "invalid arithmetic base"
    else if digits = [] then .error "invalid integer constant"
    else ofDigits b digits
  | (_, none) =>
    match t with
    | '0' :: x :: r =>
      if x = 'x' ∨ x = 'X' then ofDigits 16 r else ofDigits 8 (x :: r)
    | t => ofDigits 10 t

/-! ## Variables -/

/-- A variable, or a place in one. -/
abbrev Place := Text × Option Text

/-- What a variable holds. -/
def held (again : Text → ShellM Int) (p : Place) : ShellM (Option Octets) := do
  let (name, sub) := p
  if name = "RANDOM".toList then drawRandom
  let s ← get
  match sub with
  | none => return s.parameter? name
  | some sub =>
    match (s.var? (s.shell.meantName name)).map (·.content) with
    | some (Content.table ms) => return ms.lookup sub
    | some c => return c.at? (Text.ofInt (← again sub))
    | none =>
      let _ ← again sub
      return none

def placeText (p : Place) : Text :=
  match p.2 with
  | some sub => p.1 ++ '[' :: sub ++ [']']
  | none => p.1

def valueOf (again : Text → ShellM Int) (p : Place) : ShellM Int := do
  match ← held again p with
  | none =>
    if ← hasOption 'u' then
      complain (placeText p ++ ": unbound variable".toList)
      let p ← shell
      setStatus (if p.source.isSome || p.isSubshell then 1 else 127)
      throw .exit
    else return 0
  | some t =>
    if t = [] then return 0
    else if t.all Char.isDigit && (t.head? != some '0' || t.length == 1) && t.length < 18 then
      return ((String.ofList t).toNat?.getD 0 : Nat)
    else again t

def assign (again : Text → ShellM Int) (p : Place) (n : Int) : ShellM Unit := do
  let o := Text.ofInt n
  match p with
  | (name, none) => setVar name o
  | (name, some sub) =>
    match (← varNamed name).content with
    | .table _ => setEntry name sub o
    | c =>
      let k ← again sub
      let size : Nat := match c with
        | .list ms => (ms.getLast?.map (·.1 + 1)).getD 0
        | .text _ => 1
        | _ => 0
      let k := if k < 0 then size + k else k
      if k < 0 then refuse (placeText p ++ ": bad array subscript".toList)
      else setMember name k.toNat o

/-! ## Expressions -/

/-- A value, and the variable that it is the value of, if it is just that. -/
structure Value where
  number : Int
  place : Option Place := none

/-- The operators between values, the weakest first. -/
def ranks : List (List String) :=
  [["||"], ["&&"], ["|"], ["^"], ["&"], ["==", "!="], ["<", ">", "<=", ">="], ["<<", ">>"], ["+", "-"],
    ["*", "/", "%"]]

inductive Level where
  | sequence
  | assignment
  | choice
  | ranked (rs : List (List String))
  | power
  | unary

def operation (source : Text) (idle : Bool) (op : String) (a b : Int) (token : Text) : ShellM Int := do
  match operate? op a b with
  | some n => return n
  | none => if idle then return 0 else complainAt source "division by 0" token

def assigning : List String := ["=", "*=", "/=", "%=", "+=", "-=", "<<=", ">>=", "&=", "^=", "|="]

section

variable (source : Text) (again : Text → ShellM Int)

/-- Go on with a value and what stands behind it. -/
def sequenceFrom (item : CalcM Value) : (steps : Nat) → Value → CalcM Value
  | 0, v => return v
  | n + 1, v => do
    if (← currentMark) == "," then
      advance
      let w ← item
      sequenceFrom item n ⟨w.number, none⟩
    else return v

/-- Go on with operators of one rank. Whether the right side has an effect hangs on the left. -/
def rankedFrom (idle : Bool) (ops : List String) (item : (idle : Bool) → CalcM Value) :
    (steps : Nat) → Value → CalcM Value
  | 0, v => return v
  | n + 1, v => do
    let op ← currentMark
    if !ops.contains op then return v
    else
      advance
      let token := (← get).last
      let settled := (op == "&&" && v.number == 0) || (op == "||" && v.number != 0)
      let w ← item (idle || settled)
      let result ← match op with
        | "&&" => pure (ofBool (v.number ≠ 0 ∧ w.number ≠ 0))
        | "||" => pure (ofBool (v.number ≠ 0 ∨ w.number ≠ 0))
        | _ => operation source idle op v.number w.number token
      rankedFrom idle ops item n ⟨result, none⟩

/-- A variable that is counted when it is asked for. -/
def counted (idle : Bool) (p : Place) (step : Int) (before : Bool) : CalcM Value := do
  if idle then return ⟨0, none⟩
  else
    let n ← valueOf again p
    assign again p (wrap (n + step))
    return ⟨if before then n else wrap (n + step), none⟩

/-- Work out what a level allows. -/
def level : (steps : Nat) → (idle : Bool) → Level → CalcM Value
  | 0, _, _ => mistake source "expression recursion level exceeded"
  | n + 1, idle, .sequence => do sequenceFrom (level n idle .assignment) n (← level n idle .assignment)
  | n + 1, idle, .assignment => do
    let v ← level n idle .choice
    let op ← currentMark
    if !assigning.contains op then return v
    else match v.place with
      | none => mistake source "attempted assignment to non-variable"
      | some p =>
        advance
        let token := (← get).last
        let w ← level n idle .assignment
        let result ← if op = "=" then pure w.number
          else operation source idle (op.dropEnd 1).toString v.number w.number token
        if !idle then assign again p result
        return ⟨result, none⟩
  | n + 1, idle, .choice => do
    let test ← level n idle (.ranked ranks)
    if (← currentMark) != "?" then return test
    else
      advance
      let m ← currentMark
      if (← current).isNone || m == ":" then mistake source "expression expected"
      else
        let yes ← level n (idle || test.number == 0) .sequence
        if (← currentMark) != ":" then mistake source "\x60:' expected for conditional expression"
        else
          advance
          if (← current).isNone then mistake source "expression expected"
          else
            let no ← level n (idle || test.number != 0) .choice
            return ⟨if test.number ≠ 0 then yes.number else no.number, none⟩
  | n + 1, idle, .ranked [] => level n idle .power
  | n + 1, idle, .ranked (ops :: stronger) => do
    let v ← level n idle (.ranked stronger)
    rankedFrom source idle ops (fun idle => level n idle (.ranked stronger)) n v
  | n + 1, idle, .power => do
    let v ← level n idle .unary
    if (← currentMark) != "**" then return v
    else
      advance
      let w ← level n idle .power
      if w.number < 0 then mistake source "exponent less than 0"
      else return ⟨power v.number w.number.toNat, none⟩
  | n + 1, idle, .unary => do
    match ← current with
    | some (.mark op) =>
      if op = "!" ∨ op = "~" ∨ op = "-" ∨ op = "+" then
        advance
        let v ← level n idle .unary
        return ⟨if op = "!" then ofBool (v.number = 0) else if op = "~" then -v.number - 1
          else if op = "-" then wrap (-v.number) else v.number, none⟩
      else if op = "(" then
        advance
        let v ← level n idle .sequence
        if (← currentMark) == ")" then
          advance
          return ⟨v.number, none⟩
        else mistake source "missing \x60)'"
      else if op = "++" ∨ op = "--" then
        advance
        match ← current with
        | some (.name t sub) =>
          advance
          counted again idle (t, sub) (if op = "++" then 1 else -1) false
        | _ => mistake source "identifier expected after pre-increment or pre-decrement"
      else mistakeHere source false
    | some (.number t) =>
      match numberOf t with
      | .ok k =>
        advance
        return ⟨k, none⟩
      | .error message => mistake source message
    | some (.name t sub) =>
      advance
      let op ← currentMark
      if op = "++" ∨ op = "--" then
        advance
        counted again idle (t, sub) (if op = "++" then 1 else -1) true
      else
        let n ← if idle || op == "=" then pure 0 else valueOf again (t, sub)
        return ⟨n, some (t, sub)⟩
    | _ => mistakeHere source false

def whole (steps : Nat) : CalcM Int := do
  if (← current).isNone then return 0
  else
    let v ← level source again steps false .sequence
    if (← current).isSome then mistakeHere source true else return v.number

end

def maxReferences : Nat := 1024

/-- Work out a text; variables may hold expressions, `depth` times over. -/
def valueIn : (depth : Nat) → Text → ShellM Int
  | 0, t => complainAt t "expression recursion level exceeded" t
  | n + 1, t => do
    let (k, _) ← (whole t (valueIn n) (64 * (t.length + 2))).run (startOf t)
    return k

end KarelBuild.Shell.Calculation

namespace KarelBuild.Shell

namespace Arithmetic

open ShellM

/-- The number that an expression comes to. -/
def value (t : Text) : ShellM Int := do
  if ← isRich then Calculation.valueIn Calculation.maxReferences t else plainValue t

end Arithmetic

/-! ## Setting what may be a number -/

namespace ShellM

/-- The value with what it is appended to. In a variable for numbers it is worked out, and added. -/
def appended (v : Variable) (before o : Octets) (appends : Bool) : ShellM Octets := do
  if v.isNumber then
    let n ← Arithmetic.value o
    let m ← if appends then Arithmetic.value before else pure 0
    return Text.ofInt (Arithmetic.wrap (m + n))
  else return if appends then before ++ o else o

/-- Set a variable to a value, which is worked out if the variable is for numbers. -/
def assignVar (name : Text) (o : Octets) : ShellM Unit := do
  setVar name (← appended (← varNamed name) [] o false)

def assignPlace (name : Text) (index o : Octets) : ShellM Unit := do
  setPlace name index (← appended (← varNamed name) [] o false)

/-- What comes behind the members that a variable has. -/
def nextMember : Content → Nat
  | .unset => 0
  | .text _ => 1
  | .list ms => (ms.getLast?.map (·.1 + 1)).getD 0
  | .table _ => 0

/-- The place that a subscript means: the key of a table, or the number that it works out to, from the end if
it is negative. Tells whether there is such a place. -/
def placeIndex (name : Text) (sub : Octets) : ShellM (Octets × Bool) := do
  match (← varNamed name).content with
  | .table _ => return (sub, true)
  | c =>
    let n ← Arithmetic.value sub
    let k : Int := if n < 0 then nextMember c + n else n
    return (Text.ofInt k, 0 ≤ k)

/-- Set what a text names: a variable, or a place of a list. -/
def assignNamed (t o : Octets) : ShellM Unit := do
  match Process.cutPlace t with
  | (name, some sub) =>
    match ← placeIndex name sub with
    | (index, true) => assignPlace name index o
    | _ => refuse (t ++ ": bad array subscript".toList)
  | (name, none) => assignVar name o

end ShellM

end KarelBuild.Shell
