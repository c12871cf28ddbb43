import KarelBuild.Shell.Reading.Token

/-!
# Reading conditions

A condition between double brackets is made of tests, which conjunctions and parentheses join. What is
wrong in one is told by the token that is out of place.
-/

namespace KarelBuild.Shell

open ReadM

namespace ConditionReading

variable (nested : Nested)

def plainToken : ReadM Token := token nested {}

def operators : List Text :=
  ["=", "==", "!=", "=~", "-eq", "-ne", "-lt", "-le", "-gt", "-ge", "-nt", "-ot", "-ef"].map
    String.toList

def isUnary (t : Text) : Bool :=
  match t with
  | ['-', c] => "abcdefghknoprstuvwxzGLNORS".toList.contains c
  | _ => false

/-- Complain with a line that is shown, naming what is near the mistake. -/
def refuse {α : Type} (t : Token) (message near : Text) : ReadM α := do
  let r ← get
  let line := match t with
    | .newline => r.line - 1
    | _ => r.line
  let nearby := "syntax error near \x60".toList ++ near ++ ['\'']
  throw (if message = [] then ⟨line, nearby, true, []⟩ else ⟨line, message, true, [nearby]⟩)

/-- The text that is named as near: the token, or for one that ends the line what stands before it. -/
def nearOf (t : Token) (before : Text) : ReadM Text := do
  match t with
  | .newline => return before
  | .mark m => return m.take 1
  | _ => written

/-- Complain of the end of the text. -/
def refuseEnd {α : Type} (line : Nat) : ReadM α := do
  throw ⟨line, "unexpected EOF while looking for \x60]]'".toList, false, []⟩

/-- A word that an operator needs. -/
def operand (kind : String) (before : Text) : ReadM Word := do
  let t ← plainToken nested
  let isEnd := match t with
    | .word w => w.plain? == some "]]".toList
    | _ => false
  match t, isEnd with
  | .word w, false => return w
  | .keyword k, _ => return [.plain k]
  | _, _ =>
    let name ← written
    let message := "unexpected argument \x60".toList ++ name ++ "' to conditional ".toList ++ kind.toList ++
      " operator".toList
    let near ← if isEnd && kind == "binary" then do
        let after ← plainToken nested
        nearOf after before
      else nearOf t before
    refuse t message near

/-- A word in which groups of patterns are read. -/
def patternOperand (before : Text) : ReadM Word := do
  let extended := (← get).extended
  modify fun r => { r with extended := true }
  let w ← operand nested "binary" before
  modify fun r => { r with extended }
  return w

/-- An expression to match, in which parentheses and bars are not marks. -/
def expression : ReadM Word := do
  skipBlanks
  let line := (← get).line
  untilDone ([], 0) fun ((w : Word), (depth : Nat)) => do
    let more ← readWord nested false
    let w := w ++ more
    let r ← get
    let take (c : Char) (depth : Nat) (rest : List Char) : ReadM ((Word × Nat) ⊕ Word) := do
      set { r with rest }
      return .inl (w ++ [.plain [c]], depth)
    match r.rest with
    | '(' :: rest => take '(' (depth + 1) rest
    | ')' :: rest => if depth = 0 then return .inr (join w) else take ')' (depth - 1) rest
    | '|' :: '|' :: _ => return .inr (join w)
    | '|' :: rest => take '|' depth rest
    | c :: rest =>
      if depth > 0 ∧ c ≠ '\n' then take c depth rest
      else if depth > 0 then unclosedAt line ')' "Missing ')'"
      else return .inr (join w)
    | [] => if depth > 0 then unclosedAt line ')' "Missing ')'" else return .inr (join w)

/-- A test behind its first token. -/
def test (t : Token) : ReadM Condition := do
  let start ← written
  let first ← match t with
    | .word w =>
      if w.plain? = some "]]".toList then refuse t [] (← written) else pure w
    | .keyword k => pure [.plain k]
    | t =>
      let name ← written
      refuse t ("unexpected token \x60".toList ++ name ++ "' in conditional command".toList) (← nearOf t name)
  match first.plain? with
  | some op =>
    if isUnary op then return .unary op (← operand nested "unary" start)
  | none => pure ()
  let t ← plainToken nested
  let near ← nearOf t start
  match t with
  | .redirection none mark =>
    if mark = ['<'] ∨ mark = ['>'] then return .binary first mark (← operand nested "binary" mark)
    else refuse t "conditional binary operator expected".toList near
  | .word v =>
    match v.plain? with
    | some op =>
      if op == "]]".toList then
        putBack t
        return .unary "-n".toList first
      else if op == "=~".toList then return .binary first op (← expression nested)
      else if ["=", "==", "!="].any (op == ·.toList) then
        return .binary first op (← patternOperand nested op)
      else if operators.contains op then return .binary first op (← operand nested "binary" op)
      else refuse t "conditional binary operator expected".toList near
    | none => refuse t "conditional binary operator expected".toList near
  | .mark m =>
    if m = "&&".toList ∨ m = "||".toList ∨ m = [')'] then
      putBack t
      return .unary "-n".toList first
    else
      let name ← written
      refuse t ("unexpected token \x60".toList ++ name ++ "', conditional binary operator expected".toList) near
  | _ =>
    let name ← written
    refuse t ("unexpected token \x60".toList ++ name ++ "', conditional binary operator expected".toList) near

mutual

/-- Alternatives; parentheses nest at most `depth` deep. -/
def either : (depth : Nat) → ReadM Condition
  | 0 => fail "end of file unexpected"
  | n + 1 => do
    let first ← both n
    let t ← token nested ⟨false, false, false⟩
    if t.isMark "||" then return .either first (← either n)
    else
      putBack t
      return first

def both : (depth : Nat) → ReadM Condition
  | 0 => fail "end of file unexpected"
  | n + 1 => do
    let first ← factor n
    let t ← token nested ⟨false, false, false⟩
    if t.isMark "&&" then return .both first (← both n)
    else
      putBack t
      return first

def factor : (depth : Nat) → ReadM Condition
  | 0 => fail "end of file unexpected"
  | n + 1 => do
    let t ← token nested ⟨true, true, false⟩
    if t.isKeyword "!" then return .isNot (← factor n)
    else if t.isMark "(" then
      let c ← either n
      let t ← token nested ⟨true, false, false⟩
      if t.isMark ")" then return c
      else
        let name ← written
        refuse t ("unexpected token \x60".toList ++ name ++ "', expected \x60)'".toList) (← nearOf t name)
    else test nested t

end

/-- A condition up to the brackets that close it. -/
def whole (line : Nat) : ReadM Condition := do
  let c ← either nested (← bound)
  let t ← token nested ⟨true, false, false⟩
  match t with
  | .word [.plain [']', ']']] => return c
  | .word _ => refuse t "syntax error in conditional expression".toList (← nearOf t [])
  | .ending => refuseEnd line
  | t =>
    let name ← written
    refuse t ("syntax error in conditional expression: unexpected token \x60".toList ++ name ++ ['\''])
      (← nearOf t name)

end ConditionReading

end KarelBuild.Shell
