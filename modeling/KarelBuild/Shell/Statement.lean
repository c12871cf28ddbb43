import KarelBuild.Text

/-!
# Statements of the shell

A script is a sequence of statements. Its words keep apart what was quoted and what is still to be
expanded; the commands inside a word are statements themselves. All text is a list of bytes, each of
them written as the character of that number.

There are two dialects. The plain one is read by `sh`, the rich one adds lists, conditions between
double brackets, and more ways to change a value.
-/

namespace KarelBuild.Shell

inductive Dialect where
  | plain
  | rich
  deriving DecidableEq, Repr

/-- What a file is opened for; `replaces` does so even where `writes` may not. -/
inductive Direction where
  | reads
  | writes
  | replaces
  | appends
  | both
  deriving DecidableEq, Repr

/-- Where a case goes on behind what it has run. -/
inductive CaseEnd where
  | stop
  /-- With what is run for the next patterns. -/
  | goOn
  /-- With the next patterns. -/
  | tryNext
  deriving DecidableEq, Repr

inductive Recasing where
  | upper
  | lower
  | toggle
  deriving DecidableEq, Repr

mutual

/-- A part of a word. A `quoteMark` is where quotes open or close: a field with one in it is kept even
if nothing else is in it. -/
inductive Part where
  | plain (t : Text)
  | quoted (t : Text)
  | quoteMark (c : Char)
  | value (inQuotes : Bool) (name : Text) (subscript : Subscript) (change : Change)
  | output (inQuotes : Bool) (body : Statement)
  | sum (inQuotes : Bool) (expression : List Part)
  /-- The name of a stream that commands write to, if it is to be read, or else read from. -/
  | process (reads : Bool) (body : Statement)

/-- Which members of a list are meant. -/
inductive Subscript where
  | none
  | each
  | joined
  | member (expression : List Part)

/-- What is done to the value of a parameter. With `emptyToo`, the empty value counts as missing. -/
inductive Change where
  /-- None, where no braces stand around the name, or where they do. -/
  | bare
  | keep
  | size
  | orElse (emptyToo : Bool) (word : List Part)
  | orAssign (emptyToo : Bool) (word : List Part)
  | orFail (emptyToo : Bool) (word : List Part)
  | instead (emptyToo : Bool) (word : List Part)
  | trim (front longest : Bool) (pattern : List Part)
  | slice (offset : List Part) (length : Option (List Part))
  | replace (all : Bool) (anchor : Text) (pattern : List Part) (replacement : List Part)
  | recase (casing : Recasing) (all : Bool) (pattern : List Part)
  /-- What an operator behind an at sign makes of it. -/
  | transform (operator : Char)
  | names
  | keys
  /-- The same change of the parameter that is named. -/
  | through (change : Change)
  | wrong (written : Text)

inductive Redirection where
  /-- The same for a free descriptor, whose number a variable is set to. -/
  | allotted (variableName : Text) (r : Redirection)
  | file (fd : Nat) (direction : Direction) (name : List Part)
  | copy (fd : Nat) (source : Option Nat)
  | copyNamed (fd : Nat) (reads : Bool) (name : List Part)
  | document (fd number : Nat)
  | text (fd : Nat) (word : List Part)
  | outAndErrors (appends : Bool) (name : List Part)

/-- A word of a list, which may be for a place of its own. -/
inductive Member where
  | word (w : List Part)
  | entry (key : List Part) (appends : Bool) (value : List Part)

inductive Assigned where
  | text (word : List Part)
  | list (members : List Member)

inductive Assignment where
  | mk (name : Text) (subscript : Option (List Part)) (appends : Bool) (value : Assigned)

/-- A condition between double brackets. -/
inductive Condition where
  | unary (operator : Text) (word : List Part)
  | binary (left : List Part) (operator : Text) (right : List Part)
  | isNot (c : Condition)
  | both (c d : Condition)
  | either (c d : Condition)

inductive Statement where
  | simple (line : Nat) (assignments : List Assignment) (words : List (List Part))
      (redirections : List Redirection)
  | pipeline (line : Nat) (stages : List Statement)
  | background (line : Nat) (body : Statement)
  | opposite (s : Statement)
  | both (first second : Statement)
  | either (first second : Statement)
  | block (statements : List Statement)
  /-- Commands between braces. -/
  | group (s : Statement)
  | choice (branches : List (Statement × Statement)) (otherwise : Option Statement)
  | loop (expected : Bool) (test body : Statement)
  | each (line : Nat) (name : Text) (words : List (List Part)) (body : Statement)
  | select (line : Nat) (word : List Part) (cases : List (List (List Part) × Statement × CaseEnd))
  | menu (line : Nat) (name : Text) (words : List (List Part)) (body : Statement)
  | subshell (line : Nat) (body : Statement)
  | redirected (line : Nat) (body : Statement) (redirections : List Redirection)
  | define (line : Nat) (name : Text) (body : Statement)
  | sum (line : Nat) (expression : List Part)
  | condition (line : Nat) (c : Condition)
  | count (line : Nat) (first test next : List Part) (body : Statement)
  /-- A command whose time is told. -/
  | timed (briefly : Bool) (s : Statement)
  /-- A command beside the shell, which holds both its ends. -/
  | companion (line : Nat) (name : Text) (body : Statement)

end

abbrev Word := List Part

/-- Whether a list stays a list of as many members, or of some of them. -/
def Change.keepsItems : Change → Bool
  | bare => true
  | keep => true
  | trim _ _ _ => true
  | slice _ _ => true
  | replace _ _ _ _ => true
  | recase _ _ _ => true
  | transform _ => true
  | names => true
  | keys => true
  | _ => false

instance : Inhabited Statement := ⟨.block []⟩

/-! ## Names -/

def isNameStart (c : Char) : Bool := c.isAlpha || c == '_'

def isNameChar (c : Char) : Bool := c.isAlphanum || c == '_'

def isName : Text → Bool
  | [] => false
  | c :: r => isNameStart c && r.all isNameChar

namespace Word

/-- The text of a word without any quoting. -/
def plain? : Word → Option Text
  | [.plain t] => some t
  | _ => none

/-- The text of a word in which nothing is left to expand, quotes taken off. -/
def literal : Word → Text
  | [] => []
  | .plain t :: r => t ++ literal r
  | .quoted t :: r => t ++ literal r
  | _ :: r => literal r

def isQuoted (w : Word) : Bool := w.any fun
  | .quoted _ => true
  | .quoteMark _ => true
  | _ => false

/-- Put unquoted text in front of a word. -/
def consPlain (t : Text) (w : Word) : Word :=
  if t = [] then w
  else match w with
    | .plain u :: r => .plain (t ++ u) :: r
    | w => .plain t :: w

end Word

end KarelBuild.Shell
