import KarelBuild.Shell.Real
import KarelBuild.Shell.Regex.Reading
import KarelBuild.Shell.Utility.Files

/-!
# Expressions and factors

`expr` works out an expression that is given as arguments, `factor` shows the primes that a number is made of.
-/

namespace KarelBuild.Shell.Utility

open ShellM

/-! ## Expressions -/

/-- What is left of an expression. -/
structure Terms where
  rest : List Octets
  used : List Octets := []
  /-- Whether what is read has no bearing on the result, and is not worked out. -/
  isIdle : Bool := false

abbrev ExprM := StateT Terms ShellM

def nextTerm? : ExprM (Option Octets) := do return (← get).rest.head?

def takeTerm : ExprM Unit := modify fun s =>
  { s with rest := s.rest.drop 1, used := s.rest.take 1 ++ s.used }

def missingTerm {α : Type} : ExprM α := do
  match (← get).used with
  | a :: _ => stop 2 ("syntax error: missing argument after ".toList ++ quoted a)
  | [] => misuse 2 "missing operand".toList

def integer? (t : Octets) : Option Int :=
  let ds := if t.head? = some '-' then t.drop 1 else t
  if isNumber ds then some (if t.head? = some '-' then -(digitsValue ds : Int) else digitsValue ds) else none

def isNull (o : Octets) : Bool :=
  o.isEmpty || (let ds := if o.head? = some '-' then o.drop 1 else o
    !ds.isEmpty && ds.all (· == '0'))

def integer (o : Octets) : ShellM Int := do
  match integer? o with
  | some n => return n
  | none => stop 2 "non-integer argument".toList

/-- Work something out, unless it has no bearing on the result. -/
def unlessIdle (m : ShellM Octets) : ExprM Octets := do
  if (← get).isIdle then return [] else m

/-- What a match gives: its first group, or how long it is. -/
def matchResult (o pattern : Octets) : ShellM Octets := do
  match Regex.ofText? false false pattern with
  | .error e => stop 2 e.toList
  | .ok r =>
    let found := Regex.matchAt r (.ofText none o)
    if r.groupCount > 0 then return (found.bind fun m => m.groupText 1).getD []
    else return Text.ofNat ((found.map (·.length)).getD 0)

def boolText (b : Bool) : Octets := if b then ['1'] else ['0']

/-- Apply an operator to the terms on its sides. -/
def applyOperator (op : String) (a b : Octets) : ShellM Octets := do
  let compared : Ordering := match integer? a, integer? b with
    | some x, some y => compare x y
    | _, _ => if a = b then .eq else if Text.le a b then .lt else .gt
  let sum (f : Int → Int → Int) : ShellM Octets := do return Text.ofInt (f (← integer a) (← integer b))
  match op with
  | "|" => return if !isNull a then a else if isNull b then ['0'] else b
  | "&" => return if isNull a ∨ isNull b then ['0'] else a
  | "=" => return boolText (compared == .eq)
  | "==" => return boolText (compared == .eq)
  | "!=" => return boolText (compared != .eq)
  | "<" => return boolText (compared == .lt)
  | "<=" => return boolText (compared != .gt)
  | ">" => return boolText (compared == .gt)
  | ">=" => return boolText (compared != .lt)
  | "+" => sum (· + ·)
  | "-" => sum (· - ·)
  | "*" => sum (· * ·)
  | ":" => matchResult a b
  | op =>
    let x ← integer a
    let y ← integer b
    if y = 0 then stop 2 "division by zero".toList
    else return Text.ofInt (if op = "/" then x.tdiv y else x.tmod y)

/-- Operators from the weakest on. -/
def exprLevels : List (List String) :=
  [["|"], ["&"], ["=", "==", "!=", "<", "<=", ">", ">="], ["+", "-"], ["*", "/", "%"], [":"]]

section

variable (deeper : ExprM Octets)

/-- A single term, an expression in parentheses, or one of the functions on text. -/
def exprTerm : (steps : Nat) → ExprM Octets
  | 0 => missingTerm
  | n + 1 => do
    match ← nextTerm? with
    | none => missingTerm
    | some t =>
      takeTerm
      match String.ofList t with
      | "(" =>
        let o ← deeper
        match ← nextTerm? with
        | some [')'] =>
          takeTerm
          return o
        | some u => stop 2 ("syntax error: expecting ')' instead of ".toList ++ quoted u)
        | none => stop 2 ("syntax error: expecting ')' after ".toList ++ quoted ((← get).used.headD []))
      | ")" => stop 2 "syntax error: unexpected ')'".toList
      | "+" =>
        match ← nextTerm? with
        | some o =>
          takeTerm
          return o
        | none => missingTerm
      | "length" => return Text.ofNat (← exprTerm n).length
      | "match" =>
        let o ← exprTerm n
        let pattern ← exprTerm n
        unlessIdle (matchResult o pattern)
      | "index" =>
        let o ← exprTerm n
        let cs ← exprTerm n
        return Text.ofNat ((o.findIdx? cs.contains).elim 0 (· + 1))
      | "substr" =>
        let o ← exprTerm n
        let start := integer? (← exprTerm n)
        let count := integer? (← exprTerm n)
        match start, count with
        | some s, some n =>
          if s ≤ 0 ∨ n ≤ 0 then return [] else return (o.drop (s.toNat - 1)).take n.toNat
        | _, _ => return []
      | _ => return t

/-- Operators of one level, from left to right. -/
def exprChain (inner : ExprM Octets) (ops : List String) : (steps : Nat) → Octets → ExprM Octets
  | 0, left => return left
  | n + 1, left => do
    match ← nextTerm? with
    | none => return left
    | some t =>
      match ops.find? (·.toList == t) with
      | none => return left
      | some op =>
        takeTerm
        let isIdle := (← get).isIdle
        modify fun s => { s with isIdle := isIdle || (op == "|" && !isNull left) || (op == "&" && isNull left) }
        let right ← inner
        modify fun s => { s with isIdle }
        exprChain inner ops n (← unlessIdle (applyOperator op left right))

def exprLevel : List (List String) → ExprM Octets
  | [] => do exprTerm deeper ((← get).rest.length + 1)
  | ops :: more => do
    let left ← exprLevel more
    exprChain (exprLevel more) ops ((← get).rest.length + 1) left

end

def exprWhole : (depth : Nat) → ExprM Octets
  | 0 => return []
  | n + 1 => exprLevel (exprWhole n) exprLevels

def expr : Utility := fun _ args => do
  let args := if args.head? = some ['-', '-'] then args.drop 1 else args
  if args = [] then misuse 2 "missing operand".toList
  else
    let (o, s) ← (exprWhole (args.length + 1)).run { rest := args }
    match s.rest with
    | t :: _ => stop 2 ("syntax error: unexpected argument ".toList ++ quoted t)
    | [] =>
      emitLine o
      return if isNull o then 1 else 0

/-! ## Factors -/

/-- A power of a number, of which only what is left by another is kept. -/
def powerMod (m : Nat) : (steps : Nat) → (base exponent result : Nat) → Nat
  | 0, _, _, r => r
  | n + 1, b, e, r =>
    if e = 0 then r % m else powerMod m n (b * b % m) (e / 2) (if e % 2 = 1 then r * b % m else r)

/-- The first primes, which are tried as witnesses. -/
def firstPrimes : List Nat := [2, 3, 5, 7, 11, 13, 17, 19, 23, 29, 31, 37, 41, 43, 47, 53, 59, 61, 67, 71]

def halvings : (steps : Nat) → Nat → Nat × Nat
  | 0, n => (0, n)
  | k + 1, n => if n % 2 = 0 ∧ n ≠ 0 then ((halvings k (n / 2)).1 + 1, (halvings k (n / 2)).2) else (0, n)

/-- Whether a number is prime, as far as the witnesses tell. -/
def isPrime (n : Nat) : Bool :=
  if n < 2 then false
  else if firstPrimes.contains n then true
  else if firstPrimes.any fun p => n % p == 0 then false
  else
    let bits := Real.bitLength n
    let (s, d) := halvings bits (n - 1)
    firstPrimes.all fun a =>
      let x := powerMod n (bits + 1) a d 1
      x == 1 || hits n s x
where
  hits (n : Nat) : Nat → Nat → Bool
    | 0, _ => false
    | k + 1, x => x == n - 1 || hits n k (x * x % n)

/-- A divisor found on a walk that comes back to where it was modulo that divisor. -/
def walk (n c : Nat) : (steps : Nat) → (slow fast : Nat) → Nat
  | 0, _, _ => n
  | k + 1, x, y =>
    let next (z : Nat) : Nat := (z * z + c) % n
    let x := next x
    let y := next (next y)
    let d := Nat.gcd (if x < y then y - x else x - y) n
    if d = 1 then walk n c k x y else d

/-- A divisor that is neither 1 nor the number itself, if a walk finds one. -/
def divisor? (n : Nat) : (tries c : Nat) → Option Nat
  | 0, _ => none
  | k + 1, c =>
    let d := walk n c 0x400000 2 2
    if d ≠ n then some d else divisor? n k (c + 1)

def splitPrimes : (steps : Nat) → Nat → List Nat
  | 0, n => [n]
  | k + 1, n =>
    if n < 2 then []
    else if isPrime n then [n]
    else match divisor? n 20 1 with
      | some d => splitPrimes k d ++ splitPrimes k (n / d)
      | none => [n]

/-- Take small divisors off a number; gives them and what is left. -/
def smallFactors : (steps : Nat) → (d n : Nat) → List Nat × Nat
  | 0, _, n => ([], n)
  | k + 1, d, n =>
    if n < d * d then ([], n)
    else if n % d = 0 then
      let (ds, rest) := smallFactors k d (n / d)
      (d :: ds, rest)
    else smallFactors k (if d = 2 then 3 else d + 2) n

/-- The prime factors of a number in their order. -/
def primeFactors (n : Nat) : List Nat :=
  let (small, rest) := smallFactors 0x1000 2 n
  small ++ (splitPrimes 0x100 rest).mergeSort (· ≤ ·)

/-- Factors with how often each occurs. -/
def countedFactors : List Nat → List (Nat × Nat)
  | [] => []
  | p :: rest =>
    match countedFactors rest with
    | (q, k) :: more => if p = q then (q, k + 1) :: more else (p, 1) :: (q, k) :: more
    | [] => [(p, 1)]

def showFactors (exponents : Bool) (t : Octets) : ShellM Bool := do
  let trimmed := t.dropWhile isBlankByte
  let digits := if trimmed.head? = some '+' then trimmed.drop 1 else trimmed
  if isNumber digits then
    let n := digitsValue digits
    let fs := primeFactors n
    let shown := if exponents then (countedFactors fs).map fun (p, k) =>
        if k = 1 then Text.ofNat p else Text.ofNat p ++ '^' :: Text.ofNat k
      else fs.map Text.ofNat
    emitLine (Text.ofNat n ++ ':' :: shown.flatMap (' ' :: ·))
    return true
  else
    grumble (quoted t ++ " is not a valid positive integer".toList)
    return false
where
  isBlankByte (c : Char) : Bool := c == ' '

def isGap (c : Char) : Bool := c == ' ' || c == '\t' || c == '\n'

/-- Words of a text. -/
def gapWords (o : Octets) : List Octets :=
  let (back, word) := o.foldl (fun (back, word) c =>
    if isGap c then (if word = [] then back else word.reverse :: back, []) else (back, c :: word))
    (([] : List Octets), ([] : Octets))
  (if word = [] then back else word.reverse :: back).reverse

def factor : Utility := fun _ args => do
  let g ← given (forms [('h', "exponents")] []) args
  let exponents := g.has 'h'
  if g.operands ≠ [] then forEach g.operands (showFactors exponents)
  else
    let step (code : Nat) (lines : List (Octets × Bool)) : ShellM (Nat × Option Nat) := do
      let c ← forEach (lines.flatMap fun (l, _) => gapWords l) (showFactors exponents)
      return (if c ≠ 0 then c else code, none)
    match (← shell).opened? 0 with
    | none => stop 1 "error reading input: Bad file descriptor".toList
    | some n =>
      match ← eachLines '\n' n step 0 with
      | .ok code => return code
      | .error e => stop 1 ("error reading input: ".toList ++ e.wording.toList)

end KarelBuild.Shell.Utility
