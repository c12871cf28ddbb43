import KarelBuild.Shell.Real
import KarelBuild.Shell.Regex
import KarelBuild.Text.Utf8

/-!
# Programs for records

A program for records is a list of rules, each a pattern and what is done with the records that it holds for,
and functions. Text is cut into records, and records into fields.
-/

namespace KarelBuild.Shell.Records

inductive Operator where
  | add
  | subtract
  | multiply
  | divide
  | remainder
  | power
  deriving DecidableEq, Repr

inductive Comparison where
  | less
  | atMost
  | equal
  | unequal
  | greater
  | atLeast
  deriving DecidableEq, Repr

/-- Where a record is taken from that is asked for. -/
inductive Origin where
  | input
  | file
  | command
  deriving DecidableEq, Repr

inductive Expr where
  | number (x : Float)
  | text (o : Octets)
  | regex (r : Regex)
  | name (t : Text)
  | field (index : Expr)
  | member (table : Text) (keys : List Expr)
  /-- An expression in parentheses, which is no variable. -/
  | grouped (e : Expr)
  | has (table : Text) (keys : List Expr)
  | assign (target value : Expr)
  | update (op : Operator) (target value : Expr)
  /-- Add to a variable; gives what it was before, or what it is then. -/
  | step (op : Operator) (before : Bool) (target : Expr)
  | calculation (op : Operator) (a b : Expr)
  | minus (a : Expr)
  | plus (a : Expr)
  | not (a : Expr)
  | joined (a b : Expr)
  | comparison (c : Comparison) (a b : Expr)
  | hits (expected : Bool) (a pattern : Expr)
  | and (a b : Expr)
  | or (a b : Expr)
  | choice (test yes no : Expr)
  | call (name : Text) (args : List Expr)
  | builtin (name : String) (args : List Expr)
  | take (origin : Origin) (source target : Option Expr)

/-- Where something is printed to. -/
inductive Channel where
  | file
  | fileEnd
  | command
  deriving DecidableEq, Repr

inductive Statement where
  | value (e : Expr)
  | print (formatted : Bool) (args : List Expr) (target : Option (Channel × Expr))
  | choice (test : Expr) (yes : Statement) (no : Option Statement)
  | whileLoop (test : Expr) (body : Statement)
  | doLoop (body : Statement) (test : Expr)
  | forLoop (start test step : Option Expr) (body : Statement)
  | forEach (key table : Text) (body : Statement)
  | block (body : List Statement)
  | delete (table : Text) (keys : Option (List Expr))
  | endLoop
  | nextRound
  | nextRecord
  | nextFile
  | exit (code : Option Expr)
  | result (value : Option Expr)

/-- What a rule is for. -/
inductive Pattern where
  | start
  | finish
  | always
  | single (e : Expr)
  | range (first last : Expr)

structure Rule where
  pattern : Pattern
  /-- Without a body, the record is printed. -/
  body : Option Statement

structure Function where
  name : Text
  params : List Text
  body : Statement

structure Program where
  rules : List Rule := []
  functions : List Function := []

end KarelBuild.Shell.Records
