import KarelBuild.Shell.Arithmetic

/-!
# Conditions

What `test` decides: questions about files, text and numbers. Three arguments are taken for a
comparison if they can be one; all else is read from left to right, with `-o` weaker than `-a`.
-/

namespace KarelBuild.Shell.Condition

open ShellM

/-! ## Questions -/

def stat? (s : State) (path : Octets) : Option Status := (s.statusAt true (Octets.toText path)).toOption

def isLink (s : State) (path : Octets) : Bool :=
  match s.statusAt false (Octets.toText path) with
  | .ok f => f.kind = .link
  | .error _ => false

def hasBit (bit : Nat) (f : Status) : Bool := f.mode &&& bit != 0

def asks? (s : State) (letter : Char) (path : Octets) : Option Bool :=
  let found := stat? s path
  let isKind (k : Kind) : Option Bool := some (found.any (·.kind = k))
  match letter with
  | 'e' => some found.isSome
  | 'f' => isKind .file
  | 'd' => isKind .dir
  | 's' => some (found.any (·.size ≠ 0))
  | 'x' => some (found.any (hasBit World.runBits))
  | 'r' => some found.isSome
  | 'w' => some found.isSome
  | 'O' => some found.isSome
  | 'G' => some found.isSome
  | 'L' => some (isLink s path)
  | 'h' => some (isLink s path)
  | 'c' => isKind .characters
  | 'b' => some false
  | 'p' => isKind .pipe
  | 'S' => some false
  | 'g' => some (found.any (hasBit 0o2000))
  | 'k' => some (found.any (hasBit 0o1000))
  | 'u' => some (found.any (hasBit 0o4000))
  | _ => none

/-! ## Operators -/

inductive Operator where
  | unary (letter : Char)
  | binary (name : String)
  | negation
  | both
  | either
  | opens
  | closes
  deriving DecidableEq, Repr

def binaryNames (style : Bool) : List String :=
  ["=", "!=", "<", ">", "-eq", "-ne", "-gt", "-ge", "-lt", "-le", "-nt", "-ot", "-ef"] ++
    if style then ["=="] else []

/-- The operator that an argument is; with `wide`, two equals signs are one too. -/
def operator? (wide : Bool) (t : Octets) : Option Operator :=
  let name := String.ofList t
  if (binaryNames wide).contains name then some (.binary name)
  else match name with
    | "!" => some .negation
    | "-a" => some .both
    | "-o" => some .either
    | "(" => some .opens
    | ")" => some .closes
    | _ =>
      match t with
      | ['-', c] => if "rwxefdcbpugkstznhOGLS".toList.contains c then some (.unary c) else none
      | _ => none

inductive Malformed where
  | number (t : Octets)
  | operator (t : Octets) (problem : String)
  deriving DecidableEq, Repr

/-- A number in decimal digits. -/
def number (t : Octets) : Except Malformed Int :=
  match Arithmetic.number? t with
  | some _ =>
    let isSpace (c : Char) : Bool := c == ' ' || ('\t' ≤ c && c ≤ '\r')
    let bare := t.filter (!isSpace ·)
    let (negative, ds) := match bare with
      | '-' :: r => (true, r)
      | '+' :: r => (false, r)
      | r => (false, r)
    if ds ≠ [] ∧ ds.all Char.isDigit then
      let n : Int := Arithmetic.valueIn 10 ds
      .ok (if negative then -n else n)
    else .error (.number t)
  | none => .error (.number t)

/-- Whether two paths lead to the same file. -/
def sameFile (s : State) (a b : Octets) : Bool :=
  match stat? s a, stat? s b with
  | some f, some g => f.node == g.node
  | _, _ => false

/-- Whether a file is newer than another. In the rich dialect one that is missing is older than all. -/
def isNewer (s : State) (a b : Octets) : Bool :=
  match stat? s a, stat? s b with
  | some f, some g => g.time < f.time
  | some _, none => !(s.shell.isShell && s.shell.dialect == .plain)
  | _, _ => false

def compare (s : State) (op : String) (a b : Octets) : Except Malformed Bool :=
  let numbers (f : Int → Int → Bool) : Except Malformed Bool := do return f (← number a) (← number b)
  match op with
  | "=" => .ok (a = b)
  | "==" => .ok (a = b)
  | "!=" => .ok (a ≠ b)
  | "<" => .ok (Text.le a b && a ≠ b)
  | ">" => .ok (Text.le b a && a ≠ b)
  | "-eq" => numbers fun a b => a == b
  | "-ne" => numbers fun a b => a != b
  | "-lt" => numbers fun a b => a < b
  | "-le" => numbers fun a b => a ≤ b
  | "-gt" => numbers fun a b => b < a
  | "-ge" => numbers fun a b => b ≤ a
  | "-ef" => .ok (sameFile s a b)
  | "-nt" => .ok (isNewer s a b)
  | "-ot" => .ok (isNewer s b a)
  | _ => .ok false

/-! ## Reading from left to right -/

structure Asked where
  state : State
  wide : Bool

namespace Asked

/-- Whether the argument behind a unary operator makes a comparison of it. -/
def isOperand (q : Asked) : List Octets → Bool
  | [] => true
  | [_] => false
  | op :: _ :: _ =>
    match operator? q.wide op with
    | some (.binary _) => true
    | _ => false

/-- The operator in front, unless it stands where an operand has to. -/
def front? (q : Asked) : List Octets → Option Operator
  | [] => none
  | a :: rest =>
    match operator? q.wide a with
    | some (.unary c) => if q.isOperand rest then none else some (.unary c)
    | some .opens => if rest = [] then none else some .opens
    | op => op

/-- What a condition comes to, and the arguments from its last one on. -/
abbrev Answer := Except Malformed (Bool × List Octets)

def unary (q : Asked) (letter : Char) (arg : Octets) : Except Malformed Bool :=
  match letter with
  | 'z' => .ok arg.isEmpty
  | 'n' => .ok !arg.isEmpty
  | 't' => (number arg).map fun _ => false
  | c => .ok ((asks? q.state c arg).getD false)

mutual

def either (q : Asked) : (steps : Nat) → Bool → List Octets → Answer
  | 0, _, _ => .error (.operator [] "argument expected")
  | n + 1, found, args => do
    let (b, rest) ← q.both n true args
    let found := found || b
    if q.front? (rest.drop 1) = some .either then q.either n found (rest.drop 2)
    else return (found, rest)

def both (q : Asked) : (steps : Nat) → Bool → List Octets → Answer
  | 0, _, _ => .error (.operator [] "argument expected")
  | n + 1, held, args => do
    let (b, rest) ← q.negated n args
    let held := held && b
    if q.front? (rest.drop 1) = some .both then q.both n held (rest.drop 2)
    else return (held, rest)

def negated (q : Asked) : (steps : Nat) → List Octets → Answer
  | 0, _ => .error (.operator [] "argument expected")
  | n + 1, args =>
    if q.front? args = some .negation then do
      let (b, rest) ← q.negated n (if args.length > 1 then args.drop 1 else [])
      return (!b, rest)
    else q.primary n args

def primary (q : Asked) : (steps : Nat) → List Octets → Answer
  | 0, _ => .error (.operator [] "argument expected")
  | _ + 1, [] => .ok (false, [])
  | n + 1, a :: rest =>
    match q.front? (a :: rest) with
    | some .opens =>
      if q.front? rest = some .closes then .ok (false, rest)
      else do
        let (b, last) ← q.either n false rest
        if q.front? (last.drop 1) = some .closes then return (b, last.drop 1)
        else .error (.operator [] "closing paren expected")
    | some (.unary c) =>
      match rest with
      | arg :: _ => do return (← q.unary c arg, rest)
      | [] => .error (.operator a "argument expected")
    | _ =>
      match rest with
      | op :: behind =>
        match q.front? rest with
        | some (.binary name) =>
          match behind with
          | b :: _ => do return (← compare q.state name a b, behind)
          | [] => .error (.operator op "argument expected")
        | _ => .ok (!a.isEmpty, a :: rest)
      | [] => .ok (!a.isEmpty, [a])

end

def whole (q : Asked) (args : List Octets) : Except Malformed Bool := do
  let (b, rest) ← q.either (4 * args.length + 4) false args
  match rest with
  | a :: _ :: _ => .error (.operator a "unexpected operator")
  | _ => return b

/-- Conditions of three arguments that are comparisons, or in parentheses, or denied. -/
def decide (q : Asked) : (steps : Nat) → List Octets → Except Malformed Bool
  | 0, _ => .ok false
  | _ + 1, [] => .ok false
  | n + 1, args =>
    let denied : Except Malformed Bool := (q.decide n (args.drop 1)).map not
    let bracketed := args.head? = some ['('] ∧ args.getLast? = some [')']
    match args with
    | [a, op, b] =>
      match operator? q.wide op with
      | some (.binary name) => compare q.state name a b
      | _ =>
        if bracketed then q.whole (args.drop 1).dropLast
        else if a = ['!'] then denied
        else q.whole args
    | [a, _, _, _] =>
      if bracketed then q.whole (args.drop 1).dropLast
      else if a = ['!'] then denied
      else q.whole args
    | _ => q.whole args

end Asked

def holds (s : State) (wide : Bool) (args : List Octets) : Except Malformed Bool :=
  Asked.decide ⟨s, wide⟩ (args.length + 1) args

/-! ## The builtin of the plain dialect -/

def problem : Malformed → Octets
  | .number t => "Illegal number: ".toList ++ t
  | .operator t message =>
    (if t = [] then [] else t ++ ": ".toList) ++ message.toList

/-- The answer as an exit code. -/
def run (args : List Octets) : ShellM Nat := do
  match holds (← get) false args with
  | .ok b => return if b then 0 else 1
  | .error m =>
    complain (problem m)
    return 2

/-- In brackets the last argument has to close them. -/
def runBracketed (args : List Octets) : ShellM Nat := do
  if args.getLast? = some [']'] then run args.dropLast
  else
    complain "missing ]".toList
    return 2

end KarelBuild.Shell.Condition
