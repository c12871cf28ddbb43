import KarelBuild.Shell.Regex.Reading
import KarelBuild.Shell.Utility.Files

/-!
# Editing commands

A script of the stream editor is a list of commands, each with the lines that it is for. Blocks are
flattened: where a block begins stands how many commands are passed over if it is not for a line.
-/

namespace KarelBuild.Shell.Edit

inductive Address where
  | line (n : Nat)
  | last
  | step (first by_ : Nat)
  /-- Without an expression, the one that was used last. -/
  | regex (r : Option Regex)

/-- Where a range of lines ends. -/
inductive RangeEnd where
  | address (a : Address)
  | after (n : Nat)
  | multiple (n : Nat)

inductive Piece where
  | text (o : Octets)
  | group (n : Nat)
  /-- Change the case of all that follows, or of the next character. -/
  | case_ (c : Char)

structure Substitution where
  regex : Option Regex
  pieces : List Piece
  all : Bool := false
  prints : Bool := false
  /-- Whether the result is run as a command. -/
  runs : Bool := false
  number : Nat := 1
  file : Option Octets := none

inductive Action where
  | block (size : Nat)
  | closing
  | label
  | append (o : Octets)
  | insert (o : Octets)
  | change (o : Octets)
  | jump (name : Octets)
  | jumpIfChanged (expected : Bool) (name : Octets)
  | delete
  | deleteLine
  | print
  | printLine
  | next
  | nextAppended
  | take (appends : Bool)
  | keep (appends : Bool)
  | exchange
  | number
  | display (width : Option Nat)
  | run (command : Octets)
  | quit (prints : Bool) (code : Nat)
  | readFile (path : Octets)
  | readFileLine (path : Octets)
  | writeFile (path : Octets)
  | writeFirstLine (path : Octets)
  | translate (pairs : List (Char × Char))
  | substitute (s : Substitution)
  | empty
  | fileName

structure Command where
  first : Option Address := none
  last : Option RangeEnd := none
  /-- Whether the range may end before its first line. -/
  fromZero : Bool := false
  negated : Bool := false
  action : Action
  labelName : Octets := []

end KarelBuild.Shell.Edit
