import KarelBuild.Shell.Regex.Ordered
import KarelBuild.Text.Utf8

/-!
# Scripts as trees

A script is made of nodes. Expressions and statements are nodes alike, since a block can stand where a value
is wanted and every statement has a value.
-/

namespace KarelBuild.Shell.Scripts

/-- What a name stands for. -/
inductive Sigil where
  | scalar
  | list
  | table
  | code
  | handle
  deriving DecidableEq, Repr

def Sigil.mark : Sigil → Char
  | scalar => '$'
  | list => '@'
  | table => '%'
  | code => '&'
  | handle => '*'

/-- Why a loop is left. -/
inductive Turn where
  | next
  | last
  | again
  deriving DecidableEq, Repr

inductive Operator where
  | add
  | subtract
  | multiply
  | divide
  | remainder
  | power
  | join
  | shiftLeft
  | shiftRight
  | bitAnd
  | bitOr
  | bitXor
  deriving DecidableEq, Repr

inductive Comparison where
  | less
  | greater
  | atMost
  | atLeast
  | equal
  | unequal
  /-- Which of both comes first. -/
  | order
  deriving DecidableEq, Repr

/-- When the second of two values is looked at. -/
inductive Gate where
  | ifTrue
  | ifFalse
  | ifUnset
  deriving DecidableEq, Repr

inductive Node where
  | whole (n : Int)
  | real (x : Float)
  | text (o : Octets)
  /-- A name that stands alone. -/
  | word (t : Text)
  /-- Parts of a text, of which each may be a list. -/
  | joined (parts : List Node)
  /-- A variable of a package, by its full name. -/
  | global (s : Sigil) (name : Text)
  /-- A variable of a block, by its number; it also has a name. -/
  | own (s : Sigil) (name : Text) (id : Nat)
  /-- A variable that begins here. -/
  | fresh (s : Sigil) (name : Text) (id : Nat)
  /-- A value that holds up to the end of the block. -/
  | lent (e : Node)
  | list (es : List Node)
  | element (list index : Node)
  | member (table key : Node)
  | elements (list indices : Node)
  | members (table keys : Node)
  /-- Keys with their values, of a table or a list. -/
  | pairs (s : Sigil) (e keys : Node)
  | pick (es indices : Node)
  | lastIndex (list : Node)
  | deref (s : Sigil) (e : Node)
  | reference (e : Node)
  | newList (es : List Node)
  | newTable (es : List Node)
  | closure (body : Node)
  /-- A call by name; without arguments of its own it shares those of the caller. -/
  | call (name : Text) (args : Option (List Node))
  | callValue (f : Node) (args : Option (List Node))
  /-- A method by its name, or by a value that stands for it. -/
  | method (object : Node) (name : Text ⊕ Node) (args : List Node)
  /-- A function that there always is. -/
  | apply (name : String) (args : List Node)
  | calculation (op : Operator) (a b : Node)
  | comparison (ofTexts : Bool) (c : Comparison) (a b : Node)
  | again (isList : Bool) (a times : Node)
  | range (a b : Node)
  | minus (a : Node)
  | not (a : Node)
  | flip (a : Node)
  | gate (g : Gate) (a b : Node)
  | either (a b : Node)
  | choice (test yes no : Node)
  | assign (target value : Node)
  | update (op : Operator) (target value : Node)
  | updateAgain (target times : Node)
  | updateIf (g : Gate) (target value : Node)
  | step (up before : Bool) (target : Node)
  /-- A value that an expression is applied to, and whether it is to match. -/
  | bound (positive : Bool) (target op : Node)
  | hit (pattern : Node) (flags : Text)
  | replace (pattern filling : Node) (flags : Text)
  | mapCharacters (these others flags : Text)
  | quotedPattern (pattern : Node) (flags : Text)
  | readLine (handle : Node)
  | readOperands
  | fileNames (pattern : Node)
  | fileTest (letter : Char) (e : Node)
  | print (name : String) (handle : Option Node) (args : List Node)
  /-- A function that is handed something to do for each of some values. -/
  | forAll (name : String) (f : Option Node) (args : List Node)
  /-- The output of a command. -/
  | output (command : Node)
  /-- Statements. -/
  | nothing
  | stepAt (line : Nat) (s : Node)
  | block (body : List Node)
  | branch (test yes : Node) (no : Option Node)
  | loop (label : Option Text) (test : Option Node) (expected : Bool) (next : Option Node) (body : Node)
  | doLoop (body test : Node) (expected : Bool)
  | forEach (label : Option Text) (item : Option Node) (es body : Node)
  | once (label : Option Text) (body : Node)
  | package (name : Text)
  | define (name : Text) (body : Node)
  | turn (t : Turn) (label : Option Text)
  | result (e : Option Node)
  | attempt (body : Node)
  | doFile (e : Node)
  /-- Functions of a module that are known by their names from here on. -/
  | load (module : Text) (args : List Node)

instance : Inhabited Node := ⟨.nothing⟩

/-- What a name in a script refers to. -/
inductive Binding where
  | own (id : Nat)
  | global (name : Text)

/-- A function of a script, by its full name. -/
structure Definition where
  name : Text
  body : Node

/-- A script that has been read. -/
structure Program where
  /-- What is done before everything else. -/
  early : List Node := []
  body : List Node := []
  /-- What is done at the end, the last one first. -/
  last : List Node := []
  definitions : List Definition := []
  /-- How many variables of blocks there are. -/
  names : Nat := 0
  /-- What follows the script in its file. -/
  data : Option Octets := none

end KarelBuild.Shell.Scripts
