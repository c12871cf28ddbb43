import KarelBuild.Shell.Variables

/-!
# Arithmetic

Expressions of the plain dialect over whole numbers of 64 bits that wrap around. Variables stand for the
numbers they hold and can be set. A mistake in an expression is a part of it, so that what stands before the
mistake is worked out first.
-/

namespace KarelBuild.Shell.Arithmetic

/-! ## Numbers -/

def digitValue (c : Char) : Nat :=
  if c.isDigit then c.toNat - '0'.toNat
  else if 'a' ≤ c ∧ c ≤ 'z' then c.toNat - 'a'.toNat + 10
  else if 'A' ≤ c ∧ c ≤ 'Z' then c.toNat - 'A'.toNat + 10
  else 99

def isDigitIn (base : Nat) (c : Char) : Bool := digitValue c < base

def valueIn (base : Nat) (digits : Text) : Nat :=
  digits.foldl (fun n c => n * base + digitValue c) 0

/-- How many numbers there are in 64 bits. -/
def range : Nat := 0x10000000000000000

def largest : Int := 0x7fffffffffffffff

def wrap (n : Int) : Int := n.bmod range

/-- The digits in front of a text with their base, and what follows: hexadecimal behind `0x`, octal
behind another zero, else decimal. -/
def digits (t : Text) : Nat × Text × Text :=
  match t with
  | '0' :: x :: c :: r =>
    if (x = 'x' ∨ x = 'X') ∧ isDigitIn 16 c then
      (16, (c :: r).takeWhile (isDigitIn 16), (c :: r).dropWhile (isDigitIn 16))
    else (8, t.takeWhile (isDigitIn 8), t.dropWhile (isDigitIn 8))
  | '0' :: _ => (8, t.takeWhile (isDigitIn 8), t.dropWhile (isDigitIn 8))
  | _ => (10, t.takeWhile (isDigitIn 10), t.dropWhile (isDigitIn 10))

/-- A number with its sign, without regard to size; blanks may stand around it. -/
def number? (t : Text) : Option Int :=
  let isSpace (c : Char) : Bool := c == ' ' || ('\t' ≤ c && c ≤ '\r')
  let t := t.dropWhile isSpace
  let (negative, unsigned) := match t with
    | '-' :: r => (true, r)
    | '+' :: r => (false, r)
    | r => (false, r)
  let (base, ds, rest) := digits unsigned
  if ds = [] ∨ !(rest.all isSpace) then none
  else some (if negative then -(valueIn base ds : Int) else valueIn base ds)

/-! ## Symbols -/

inductive Symbol where
  | number (n : Int)
  | name (t : Text)
  | mark (t : Text)
  | unknown
  deriving DecidableEq, Repr

def plainMarks : List Text :=
  ["<<=", ">>=", "&&", "||", "==", "!=", "<=", ">=", "<<", ">>", "*=", "/=", "%=", "+=", "-=", "&=",
    "^=", "|=", "<", ">", "=", "+", "-", "*", "/", "%", "!", "~", "(", ")", "&", "|", "^", "?",
    ":"].map String.toList

/-- What comes next, and what follows it; a number that is too large is the largest one. -/
def nextSymbol (t : Text) : Symbol × Text :=
  match t with
  | [] => (.unknown, [])
  | c :: r =>
    if c.isDigit then
      let (base, ds, rest) := digits t
      let n : Int := valueIn base ds
      (.number (min n largest), rest)
    else if isNameStart c then (.name (t.takeWhile isNameChar), t.dropWhile isNameChar)
    else match plainMarks.find? (·.isPrefixOf t) with
      | some m => (.mark m, t.drop m.length)
      | none => (.unknown, r)

def symbolsFrom : (steps : Nat) → Text → List Symbol
  | 0, _ => []
  | _, [] => []
  | n + 1, c :: r =>
    if c = ' ' ∨ c = '\t' ∨ c = '\n' then symbolsFrom n r
    else
      let (s, rest) := nextSymbol (c :: r)
      s :: symbolsFrom n rest

def symbols (t : Text) : List Symbol := symbolsFrom (t.length + 1) t

/-! ## Expressions -/

inductive Expression where
  | number (n : Int)
  | name (t : Text)
  | unary (op : String) (e : Expression)
  | binary (op : String) (a b : Expression)
  | choice (test yes no : Expression)
  | assign (target : Expression) (op : String) (e : Expression)
  /-- What is wrong behind an expression. -/
  | mistake (before : List Expression) (message : String)

/-- What is wrong in an expression that is not worked out. -/
def Expression.mistake? : Expression → Option String
  | number _ => none
  | name _ => none
  | unary _ e => e.mistake?
  | binary _ a b => a.mistake?.orElse fun _ => b.mistake?
  | choice a b c => a.mistake?.orElse fun _ => b.mistake?.orElse fun _ => c.mistake?
  | assign a _ b => a.mistake?.orElse fun _ => b.mistake?
  | mistake _ message => some message

/-- The binary operators from the weakest to the strongest. -/
def levels : List (List String) :=
  [["||"], ["&&"], ["|"], ["^"], ["&"], ["==", "!="], ["<", ">", "<=", ">="], ["<<", ">>"], ["+", "-"],
    ["*", "/", "%"]]

def assignments : List String :=
  ["=", "*=", "/=", "%=", "+=", "-=", "<<=", ">>=", "&=", "^=", "|="]

abbrev Parsed := Expression × List Symbol

/-- A mistake ends the reading. -/
def wrong (before : List Expression) (message : String) : Parsed := (.mistake before message, [])

def isMark (name : String) : List Symbol → Bool
  | .mark t :: _ => t == name.toList
  | _ => false

def markOf? : List Symbol → Option String
  | .mark t :: _ => some (String.ofList t)
  | _ => none

/-- What may be read from symbols. -/
inductive Level where
  | assignment
  | choice
  | binary (levels : List (List String))
  | more (a : Expression) (ops : List String) (stronger : List (List String))
  | unary

mutual

/-- Read what a level allows. -/
def read : (steps : Nat) → Level → List Symbol → Parsed
  | 0, _, _ => wrong [] "expression too deep"
  | n + 1, .assignment, ss => assignment n ss
  | n + 1, .choice, ss =>
    let (test, rest) := read n (.binary levels) ss
    if isMark "?" rest then
      let (yes, rest) := read n .assignment (rest.drop 1)
      if isMark ":" rest then
        let (no, rest) := read n .choice (rest.drop 1)
        (.choice test yes no, rest)
      else wrong [test, yes] "expecting ':'"
    else (test, rest)
  | n + 1, .binary [], ss => read n .unary ss
  | n + 1, .binary (ops :: stronger), ss =>
    let (a, rest) := read n (.binary stronger) ss
    read n (.more a ops stronger) rest
  | n + 1, .more a ops stronger, ss =>
    match markOf? ss with
    | some op =>
      if ops.contains op then
        let (b, rest) := read n (.binary stronger) (ss.drop 1)
        read n (.more (.binary op a b) ops stronger) rest
      else (a, ss)
    | none => (a, ss)
  | n + 1, .unary, ss => unary n ss

/-- An assignment, if a variable and its mark come first. -/
def assignment : (steps : Nat) → List Symbol → Parsed
  | 0, _ => wrong [] "expression too deep"
  | n + 1, ss =>
    match ss with
    | .name t :: .mark m :: rest =>
      let op := String.ofList m
      if assignments.contains op then
        let (e, rest) := read n .assignment rest
        (.assign (.name t) (op.dropEnd 1).toString e, rest)
      else read n .choice ss
    | _ => read n .choice ss

/-- A number, a variable, parentheses, or a mark in front of one of these. -/
def unary : (steps : Nat) → List Symbol → Parsed
  | 0, _ => wrong [] "expression too deep"
  | n + 1, ss =>
    match ss with
    | .number k :: r => (.number k, r)
    | .name t :: r => (.name t, r)
    | .mark m :: r =>
      match String.ofList m with
      | "(" =>
        let (e, rest) := read n .assignment r
        if isMark ")" rest then (e, rest.drop 1) else wrong [e] "expecting ')'"
      | op =>
        if ["+", "-", "!", "~"].contains op then
          let (e, rest) := read n .unary r
          (.unary op e, rest)
        else wrong [] "expecting primary"
    | _ => wrong [] "expecting primary"

end

def stepsPerSymbol : Nat := 40

/-- The expression that a text is. -/
def parse (t : Text) : Expression :=
  let ss := symbols t
  match read (stepsPerSymbol * (ss.length + 1)) .assignment ss with
  | (e, []) => e
  | (e, _) => .mistake [e] "expecting EOF"

/-! ## Values -/

def ofBool (b : Bool) : Int := if b then 1 else 0

/-- A number as its 64 bits. -/
def bits (n : Int) : Nat := (n % range).toNat

def ofBits (n : Nat) : Int := wrap n

def power (a : Int) (n : Nat) : Int := (List.replicate n a).foldl (fun x y => wrap (x * y)) 1

/-- Division goes toward zero, and by zero it has no result. A shift counts modulo 64. -/
def operate? (op : String) (a b : Int) : Option Int :=
  let shift := bits b % 64
  match op with
  | "==" => some (ofBool (a = b))
  | "!=" => some (ofBool (a ≠ b))
  | "<" => some (ofBool (a < b))
  | ">" => some (ofBool (b < a))
  | "<=" => some (ofBool (a ≤ b))
  | ">=" => some (ofBool (b ≤ a))
  | "+" => some (wrap (a + b))
  | "-" => some (wrap (a - b))
  | "*" => some (wrap (a * b))
  | "/" => if b = 0 then none else some (wrap (a.tdiv b))
  | "%" => if b = 0 then none else some (wrap (a.tmod b))
  | "&" => some (ofBits (bits a &&& bits b))
  | "|" => some (ofBits (bits a ||| bits b))
  | "^" => some (ofBits (bits a ^^^ bits b))
  | "<<" => some (ofBits (bits a <<< shift))
  | ">>" => some (a >>> shift)
  | "**" => some (power a b.toNat)
  | "," => some b
  | _ => some b

open ShellM

/-- Complain about an expression. -/
def complainOf {α : Type} (source : Text) (message : String) : ShellM α :=
  refuse ("arithmetic expression: ".toList ++ message.toList ++ ": \"".toList ++ source ++ ['"'])

/-- The number that a text spells; the empty text is zero. -/
def ofText (t : Octets) : ShellM Int := do
  if t.all fun c => c == ' ' || ('\t' ≤ c && c ≤ '\r') then return 0
  else match number? t with
    | some n =>
      if -largest - 1 ≤ n ∧ n ≤ largest then return n else refuse ("Illegal number: ".toList ++ t)
    | none => refuse ("Illegal number: ".toList ++ t)

/-- Work out an expression. -/
def eval (source : Text) : Expression → ShellM Int
  | .number n => return n
  | .name t => do ofText (((← shell).value? t).getD [])
  | .unary op e => do
    let n ← eval source e
    match op with
    | "-" => return wrap (-n)
    | "!" => return ofBool (n = 0)
    | "~" => return -n - 1
    | _ => return n
  | .binary op a b => do
    let x ← eval source a
    if op = "&&" then
      if x = 0 then
        passOver b
        return 0
      else return ofBool ((← eval source b) ≠ 0)
    else if op = "||" then
      if x ≠ 0 then
        passOver b
        return 1
      else return ofBool ((← eval source b) ≠ 0)
    else operation op x (← eval source b)
  | .choice test yes no => do
    if (← eval source test) ≠ 0 then
      let n ← eval source yes
      passOver no
      return n
    else
      passOver yes
      eval source no
  | .assign target op e => do
    let n ← eval source e
    let n ← if op = "" then pure n else do operation op (← eval source target) n
    match target with
    | .name t => setVar t (Text.ofInt n)
    | _ => pure ()
    return n
  | .mistake before message => do
    mistakes before
    complainOf source message
where
  passOver (e : Expression) : ShellM Unit := do
    match e.mistake? with
    | some message => complainOf source message
    | none => return
  mistakes : List Expression → ShellM Unit
    | [] => return
    | e :: es => do
      let _ ← eval source e
      mistakes es
  operation (op : String) (a b : Int) : ShellM Int := do
    match operate? op a b with
    | some n => return n
    | none => complainOf source "division by zero"

/-- The value of an expression of the plain dialect. -/
def plainValue (t : Text) : ShellM Int := eval t (parse t)

end KarelBuild.Shell.Arithmetic
