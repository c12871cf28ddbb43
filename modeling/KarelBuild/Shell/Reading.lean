import KarelBuild.Shell.Statement

/-!
# Reading scripts

A script is read one complete command at a time, so that what stands before a mistake is run. The
reader keeps the rest of the text, the line it is in, and the documents that begin after this line.
-/

namespace KarelBuild.Shell

structure SyntaxError where
  line : Nat
  message : Text
  /-- Whether the line is shown as well. -/
  showsLine : Bool := false
  /-- What is said after the message. -/
  more : List Text := []
  deriving Repr

/-- A document whose text comes after the line that asks for it. -/
structure Pending where
  number : Nat
  ending : Text
  dropsTabs : Bool
  isLiteral : Bool
  /-- Where it was asked for. -/
  line : Nat
  deriving DecidableEq, Repr

/-- The descriptor that stands before a redirection: its number, or a variable that is set to it. -/
inductive FdPlace where
  | number (fd : Nat)
  | heldBy (name : Text)
  deriving DecidableEq, Repr

inductive Token where
  | word (w : Word)
  | keyword (name : Text)
  | mark (t : Text)
  | redirection (fd : Option FdPlace) (mark : Text)
  /-- A place of a list that is given a value; it has not been read yet. -/
  | place
  | newline
  | ending

/-- An alias whose text is being read, up to where `left` characters are left. -/
structure AliasInUse where
  name : Text
  left : Nat
  chains : Bool
  deriving DecidableEq, Repr

structure Reading where
  rest : List Char
  line : Nat
  dialect : Dialect
  aliases : List (Text × Text)
  /-- The token that was read and put back. -/
  back : Option Token := none
  pending : List Pending := []
  documents : Array Word := #[]
  inUse : List AliasInUse := []
  /-- Whether groups of patterns may stand in words. -/
  extended : Bool := false
  /-- All of the text, the line that it begins in, and the text from the last token on. -/
  whole : List Char := []
  firstLine : Nat := 1
  tokenAt : List Char := []
  warnings : List Text := []

abbrev ReadM := EStateM SyntaxError Reading

namespace ReadM

def fail {α : Type} (message : String) : ReadM α := do
  throw { line := (← get).line, message := message.toList }

def isRich : ReadM Bool := do return (← get).dialect == .rich

/-- Text that is not closed. The rich dialect tells what is missing. -/
def unclosedAt {α : Type} (line : Nat) (closing : Char) (message : String) : ReadM α := do
  if ← isRich then
    throw ⟨line, "unexpected EOF while looking for matching \x60".toList ++ [closing, '\''], false, []⟩
  else fail message

/-! ## Characters -/

/-- How many lines are joined to this one by a backslash at its end, and what follows. -/
def joins : List Char → Nat × List Char
  | '\\' :: '\n' :: r => ((joins r).1 + 1, (joins r).2)
  | r => (0, r)

/-- The next character, behind joined line ends. -/
def peek : ReadM (Option Char) := modifyGet fun r =>
  match r.rest with
  | '\\' :: '\n' :: _ =>
    let (n, rest) := joins r.rest
    (rest.head?, { r with rest, line := r.line + n })
  | rest => (rest.head?, r)

/-- Pass over the next character. -/
def skip : ReadM Unit := modify fun r =>
  match r.rest with
  | c :: rest => { r with rest, line := if c = '\n' then r.line + 1 else r.line }
  | [] => r

/-- The next character as it stands. -/
def nextRaw : ReadM (Option Char) := do
  let c := (← get).rest.head?
  skip
  return c

def next : ReadM (Option Char) := do
  let c ← peek
  skip
  return c

/-- Pass over a character if it comes next. -/
def skipIf (c : Char) : ReadM Bool := do
  if (← peek) == some c then
    skip
    return true
  else return false

/-- All characters of a kind that come next; none of them is a line end. -/
def takeRun (p : Char → Bool) : ReadM Text := modifyGet fun r =>
  let run := r.rest.takeWhile p
  (run, { r with rest := r.rest.drop run.length })

/-- Everything up to a character, which is passed over as well; `none` if it does not come. -/
def takeUntil (d : Char) : ReadM (Option Text) := modifyGet fun r =>
  let run := r.rest.takeWhile (· != d)
  let line := r.line + run.count '\n'
  match r.rest.drop run.length with
  | _ :: rest => (some run, { r with rest, line })
  | [] => (none, { r with rest := [], line })

/-- A name, or the digits of a number, behind joined line ends as far as they are inside. -/
def takeName (p : Char → Bool) : (steps : Nat) → ReadM Text
  | 0 => return []
  | n + 1 => do
    match ← peek with
    | some c =>
      if p c then
        let run ← takeRun p
        return run ++ (← takeName p n)
      else return []
    | none => return []

/-- A bound on the steps that reading what is left can take. -/
def bound : ReadM Nat := do return 4 * (← get).rest.length + 16

/-- Repeat a step until it gives a result. -/
def iterate {σ α : Type} (step : σ → ReadM (σ ⊕ α)) : (steps : Nat) → σ → ReadM α
  | 0, _ => fail "end of file unexpected"
  | n + 1, s => do
    match ← step s with
    | .inl s => iterate step n s
    | .inr a => return a

def untilDone {σ α : Type} (s : σ) (step : σ → ReadM (σ ⊕ α)) : ReadM α := do
  iterate step (← bound) s

end ReadM

end KarelBuild.Shell
