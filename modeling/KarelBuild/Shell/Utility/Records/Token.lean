import KarelBuild.Shell.Utility.Records.Matching
import KarelBuild.Shell.Utility.Records.Value

/-!
# Tokens of programs for records

A slash begins an expression where no operand stands before it, and is a division otherwise. A name with an
opening parenthesis right behind it is that of a function.
-/

namespace KarelBuild.Shell.Records

inductive Token where
  | newline
  | finish
  | mark (s : String)
  | number (x : Float)
  | text (o : Octets)
  | regex (o : Octets)
  | name (t : Text)
  | call (t : Text)
  | word (s : String)
  | builtin (s : String)
  | unexpected (c : Char)
  /-- A bracket that closes nothing; it is complained of and passed over. -/
  | extra (c : Char)
  /-- Text without an end, behind which nothing can be read. -/
  | runaway (kind : String) (o : Octets)

/-- A token, the line that it is in, how it is shown, and whether parentheses are open there. -/
structure Lexeme where
  token : Token
  line : Nat
  shown : Octets
  inParens : Bool

def words : List String :=
  ["BEGIN", "END", "function", "if", "else", "while", "for", "do", "break", "continue", "next", "nextfile", "exit",
    "return", "delete", "in", "getline", "print", "printf"]

/-- Functions that there always are, with how many arguments they take. -/
def builtins : List (String × Nat × Nat) :=
  [("length", 0, 1), ("index", 2, 2), ("substr", 2, 3), ("sprintf", 1, 1000), ("sin", 1, 1), ("cos", 1, 1),
    ("atan2", 2, 2), ("exp", 1, 1), ("log", 1, 1), ("int", 1, 1), ("sqrt", 1, 1), ("rand", 0, 0), ("srand", 0, 1),
    ("close", 1, 1), ("system", 1, 1), ("toupper", 1, 1), ("tolower", 1, 1), ("fflush", 0, 1), ("split", 2, 3),
    ("match", 2, 2), ("sub", 2, 3), ("gsub", 2, 3), ("strftime", 0, 3), ("mktime", 1, 2), ("systime", 0, 0)]

/-- Marks of more than one character, the longest first. -/
def longMarks : List String :=
  ["&&", "||", "==", "!=", "<=", ">=", "++", "--", "+=", "-=", "*=", "/=", "%=", "^=", "!~", ">>"]

def shortMarks : List Char := "\x7b\x7d()[];,+-*/%^!<>|?:~$=".toList

/-- Whether a slash behind a token is a division. -/
def endsOperand : Option Token → Bool
  | some (.number _) => true
  | some (.text _) => true
  | some (.regex _) => true
  | some (.name _) => true
  | some (.builtin "length") => true
  | some (.word "getline") => true
  | some (.mark s) => [")", "]", "$", "++", "--"].contains s
  | _ => false

/-- Text between quotes, escapes left as they are, and what follows; none without a closing quote. -/
def stringBody : (back : Octets) → Octets → Option (Octets × Octets)
  | back, '"' :: r => some (back.reverse, r)
  | back, '\\' :: c :: r => stringBody (c :: '\\' :: back) r
  | _, '\n' :: _ => none
  | back, c :: r => stringBody (c :: back) r
  | _, [] => none

/-- An expression up to a slash, which may stand behind a backslash. -/
def regexBody : (inBrackets : Bool) → (back : Octets) → Octets → Option (Octets × Octets)
  | false, back, '/' :: r => some (back.reverse, r)
  | b, back, '\\' :: '/' :: r => regexBody b ('/' :: back) r
  | b, back, '\\' :: c :: r => regexBody b (c :: '\\' :: back) r
  | _, _, '\n' :: _ => none
  | false, back, '[' :: '^' :: ']' :: r => regexBody true (']' :: '^' :: '[' :: back) r
  | false, back, '[' :: ']' :: r => regexBody true (']' :: '[' :: back) r
  | false, back, '[' :: r => regexBody true ('[' :: back) r
  | true, back, ']' :: r => regexBody false (']' :: back) r
  | b, back, c :: r => regexBody b (c :: back) r
  | _, _, [] => none

def isNameStart (c : Char) : Bool := c.isAlpha || c == '_'

def isNameChar (c : Char) : Bool := c.isAlphanum || c == '_'

/-- How much of a text is a decimal number. -/
def numberLength (t : Octets) : Nat :=
  let whole := t.takeWhile Char.isDigit
  let rest := t.drop whole.length
  let rest := match rest with
    | '.' :: r => r.dropWhile Char.isDigit
    | r => r
  t.length - (Real.exponent rest).2.length

/-- What is read next: its token, how it is shown, and what follows. -/
def nextToken (before : Option Token) (c : Char) (r : Octets) : Token × Octets × Octets :=
  let t := c :: r
  let line := t.takeWhile (· != '\n')
  if c = '"' then
    match stringBody [] r with
    | some (o, rest) => (.text (plainText o), plainText o, rest)
    | none => (.runaway "string constant" line, [], [])
  else if c.isDigit ∨ (c = '.' ∧ r.head?.any Char.isDigit) then
    let shown := t.take (numberLength t)
    (.number (numberIn shown), shown, t.drop shown.length)
  else if isNameStart c then
    let shown := t.takeWhile isNameChar
    let rest := t.drop shown.length
    let s := String.ofList shown
    if words.contains s then (.word s, shown, rest)
    else if (builtins.lookup s).isSome then (.builtin s, shown, rest)
    else if rest.head? = some '(' then (.call shown, shown, rest)
    else (.name shown, shown, rest)
  else if c = '/' ∧ !endsOperand before then
    match regexBody false [] r with
    | some (o, rest) => (.regex o, '/' :: o ++ ['/'], rest)
    | none => (.runaway "regular expression" line, [], [])
  else match longMarks.find? fun s => s.toList.isPrefixOf t with
    | some s => (.mark s, s.toList, t.drop s.length)
    | none => if shortMarks.contains c then (.mark (String.ofList [c]), [c], r) else (.unexpected c, [c], r)

/-- What reading tokens keeps track of. -/
structure Tokens where
  back : List Lexeme := []
  before : Option Token := none
  line : Nat := 1
  parens : Nat := 0
  braces : Nat := 0

def Tokens.put (s : Tokens) (token : Token) (shown : Octets) : Tokens :=
  { s with back := ⟨token, s.line, shown, s.parens > 0⟩ :: s.back, before := some token }

/-- The tokens of a program, the last of which is its end. Comments go to the end of the line, and a backslash
joins a line to the next one. -/
def tokensFrom : (steps : Nat) → Tokens → Octets → Tokens
  | 0, s, _ => s
  | _, s, [] =>
    let s := s.put .newline "end of line".toList
    { s with line := s.line + 1 }.put .finish "end of file".toList
  | n + 1, s, c :: r =>
    if c = '\n' then
      let t := s.put .newline "end of line".toList
      tokensFrom n { t with line := s.line + 1 } r
    else if isBlank c then tokensFrom n s r
    else if c = '#' then tokensFrom n s (r.dropWhile (· != '\n'))
    else match c, r with
      | '\\', '\n' :: r' => tokensFrom n { s with line := s.line + 1 } r'
      | '\\', '\r' :: '\n' :: r' => tokensFrom n { s with line := s.line + 1 } r'
      | _, _ =>
        if c = ')' ∧ s.parens = 0 ∨ c = '\x7d' ∧ s.braces = 0 then tokensFrom n (s.put (.extra c) [c]) r
        else
          let (token, shown, rest) := nextToken s.before c r
          let used := (c :: r).take (r.length + 1 - rest.length)
          let s := if c = ')' then { s with parens := s.parens - 1 } else s
          let t := s.put token shown
          let t := match token with
            | .mark "(" => { t with parens := t.parens + 1 }
            | .mark "\x7b" => { t with braces := t.braces + 1 }
            | .mark "\x7d" => { t with braces := t.braces - 1 }
            | _ => t
          let t := { t with line := t.line + used.countP (· == '\n') }
          match token with
          | .runaway _ _ => t
          | _ => tokensFrom n t rest

def tokensOf (program : Octets) : List Lexeme :=
  (tokensFrom (program.length + 2) {} program).back.reverse

end KarelBuild.Shell.Records
