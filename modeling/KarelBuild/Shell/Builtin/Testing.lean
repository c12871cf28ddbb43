import KarelBuild.Shell.Builtin.Basic
import KarelBuild.Shell.Condition

/-!
# Testing

The builtin that decides conditions. With up to four arguments their number tells how they are read; more of them
are read from left to right, with `-o` weaker than `-a`.
-/

namespace KarelBuild.Shell.Builtin

open ShellM

/-! ## Questions of the rich dialect -/

/-- Whether a place of a list is there, or a variable is set. -/
def isPlaceSet (o : Octets) : ShellM Bool := do
  let s ← get
  match Process.cutPlace o with
  | (name, some sub) =>
    let content := ((s.var? (s.shell.meantName name)).map (·.content)).getD .unset
    if sub = ['@'] ∨ sub = ['*'] then
      match content with
      | .table ms => return (ms.lookup sub).isSome
      | c => return !c.members.isEmpty
    else
      let (index, isPlace) ← placeIndex name sub
      return isPlace && (content.at? index).isSome
  | (name, none) =>
    let content := ((s.var? (s.shell.meantName name)).map (·.content)).getD .unset
    return (content.text?).isSome || name ≠ [] && name.all Char.isDigit && (s.parameter? name).isSome

def unaryHolds (op : Text) (o : Octets) : ShellM Bool := do
  let s ← get
  match op with
  | ['-', 'z'] => return o.isEmpty
  | ['-', 'n'] => return !o.isEmpty
  | ['-', 'v'] => isPlaceSet o
  | ['-', 'R'] => return (s.shell.var? o).any fun v => v.refers && v.content != .unset
  | ['-', 'a'] => return (Condition.asks? s 'e' o).getD false
  | ['-', 't'] => return false
  | ['-', 'o'] => return (Switch.named? .rich o).any (·.isOn s.shell)
  | [_, c] => return (Condition.asks? s c o).getD false
  | _ => return false

def unaryLetters : List Char := "abcdefghknoprstuvwxzGLNORS".toList

def isUnary (t : Octets) : Bool :=
  match t with
  | ['-', c] => unaryLetters.contains c
  | _ => false

def isBinary (t : Octets) : Bool := (Condition.binaryNames true).contains (String.ofList t)

/-- End a condition that cannot be read. -/
def malformed {α : Type} (message : Octets) : ShellM α := do
  complain message
  failWith 2

/-- Whether a number is too large to be one. -/
def isOutOfRange (t : Octets) : Bool :=
  match Condition.number t with
  | .ok n => n != Arithmetic.wrap n
  | .error _ => false

def compareRich (a op b : Octets) : ShellM Bool := do
  if op.head? = some '-' ∧ op.length = 3 ∧ (["-nt", "-ot", "-ef"] : List String).all (· != String.ofList op) then
    match [a, b].find? isOutOfRange with
    | some t => malformed (t ++ ": integer expression expected".toList)
    | none => pure ()
  match Condition.compare (← get) (String.ofList op) a b with
  | .ok holds => return holds
  | .error (.number t) => malformed (t ++ ": integer expression expected".toList)
  | .error _ => return false

/-! ## Reading from left to right -/

inductive TestLevel where
  | either
  | both
  | single

section

variable (closing : List Octets)

def expected {α : Type} : ShellM α := malformed "argument expected".toList

/-- Decide what a level allows; gives the arguments behind it. What stands behind all arguments is shown where a
parenthesis is missing. -/
def testLevel : (steps : Nat) → TestLevel → List Octets → ShellM (Bool × List Octets)
  | 0, _, _ => expected
  | n + 1, .either, args => do
    let (a, rest) ← testLevel n .both args
    if rest.head? = some "-o".toList then
      let (b, rest) ← testLevel n .either (rest.drop 1)
      return (a || b, rest)
    else return (a, rest)
  | n + 1, .both, args => do
    let (a, rest) ← testLevel n .single args
    if rest.head? = some "-a".toList then
      let (b, rest) ← testLevel n .both (rest.drop 1)
      return (a && b, rest)
    else return (a, rest)
  | _ + 1, .single, [] => expected
  | n + 1, .single, a :: rest => do
    if a = ['!'] then
      let (b, rest) ← testLevel n .single rest
      return (!b, rest)
    else if a = ['('] then
      let (b, rest) ← testLevel n .either rest
      match rest ++ closing with
      | [] => malformed "\x60)' expected".toList
      | c :: _ =>
        if c = [')'] then return (b, rest.drop 1)
        else malformed ("\x60)' expected, found ".toList ++ c)
    else match rest with
      | op :: b :: behind =>
        if isBinary op then return (← compareRich a op b, behind) else unaryOrText a rest
      | _ => unaryOrText a rest
where
  unaryOrText (a : Octets) (rest : List Octets) : ShellM (Bool × List Octets) := do
    if isUnary a ∧ rest ≠ [] then return (← unaryHolds a (rest.headD []), rest.drop 1)
    else if isUnary a then return (true, [])
    else if a.head? = some '-' ∧ a.length = 2 then malformed (a ++ ": unary operator expected".toList)
    else return (a ≠ [], rest)

def testAll (args : List Octets) : ShellM Bool := do
  let (b, rest) ← testLevel closing (4 * args.length + 8) .either args
  match rest with
  | [] => return b
  | a :: _ =>
    if a.head? = some '-' then malformed ("syntax error: \x60".toList ++ a ++ "' unexpected".toList)
    else malformed "too many arguments".toList

/-- Decide by the number of arguments. -/
def testCounted : List Octets → ShellM Bool
  | [] => return false
  | [a] => return a ≠ []
  | [a, b] => do
    if a = ['!'] then return b = []
    else if isUnary a then unaryHolds a b
    else malformed (a ++ ": unary operator expected".toList)
  | [a, op, b] => do
    if isBinary op then compareRich a op b
    else if op = "-a".toList then return a ≠ [] && b ≠ []
    else if op = "-o".toList then return a ≠ [] || b ≠ []
    else if a = ['!'] then return !(← testCounted [op, b])
    else if a = ['('] ∧ b = [')'] then return op ≠ []
    else malformed (op ++ ": binary operator expected".toList)
  | [a, b, c, e] => do
    if a = ['!'] then return !(← testCounted [b, c, e])
    else if a = ['('] ∧ e = [')'] then testCounted [b, c]
    else testAll closing [a, b, c, e]
  | args => testAll closing args

end

def answered (b : ShellM Bool) : ShellM Nat := do return if ← b then 0 else 1

def test : Builtin := fun _ args => do
  if ← isRich then answered (testCounted [] args) else Condition.run args

/-- In brackets the last argument has to close them. -/
def bracket : Builtin := fun _ args => do
  if !(← isRich) then Condition.runBracketed args
  else if args.getLast? = some [']'] then answered (testCounted [[']']] args.dropLast)
  else malformed "missing \x60]'".toList

end KarelBuild.Shell.Builtin
