import KarelBuild.Text.Utf8

/-!
# Permissions

The permissions of a file are twelve bits: who may read, write and run it, and three for special ways to
run it. A change of them is written in octal digits, or with letters for who is meant and for what.
-/

namespace KarelBuild.Shell.Mode

def all : Nat := 0o7777

/-- What stands behind an operator: bits, bits and the right to run where there is one, or the bits of somebody
else. -/
inductive Source where
  | bits
  | bitsAndRun
  | copy
  deriving DecidableEq, Repr

/-- Bits are added, removed or set for those who are `affected`; for nobody in particular, as far as a mask
allows. -/
structure Clause where
  operator : Char
  source : Source
  affected : Nat
  value : Nat
  mentioned : Nat
  deriving DecidableEq, Repr

def whoBits : Char → Option Nat
  | 'u' => some 0o4700
  | 'g' => some 0o2070
  | 'o' => some 0o1007
  | 'a' => some 0o7777
  | _ => none

def copyBits : Char → Option Nat
  | 'u' => some 0o700
  | 'g' => some 0o070
  | 'o' => some 0o007
  | _ => none

def letterBits : Char → Option Nat
  | 'r' => some 0o444
  | 'w' => some 0o222
  | 'x' => some 0o111
  | 'X' => some 0
  | 's' => some 0o6000
  | 't' => some 0o1000
  | _ => none

def isOperator (c : Char) : Bool := c == '+' || c == '-' || c == '='

def isOctal (c : Char) : Bool := '0' ≤ c && c ≤ '7'

def octalValue (t : Octets) : Nat := t.foldl (fun n c => n * 8 + (c.toNat - 48)) 0

def orAll (ns : List Nat) : Nat := ns.foldl (· ||| ·) 0

/-- What stands behind one operator. -/
def clause? (affected : Nat) (operator : Char) (t : Octets) : Option Clause :=
  match t with
  | [c] =>
    match copyBits c with
    | some value => some ⟨operator, .copy, affected, value, if affected = 0 then value else affected &&& value⟩
    | none => letters [c]
  | t =>
    if t ≠ [] ∧ t.all isOctal then
      let value := octalValue t
      if affected ≠ 0 ∨ value > all then none else some ⟨operator, .bits, all, value, all⟩
    else letters t
where
  letters (t : Octets) : Option Clause :=
    (t.mapM letterBits).map fun bits =>
      let value := orAll bits
      let source := if t.contains 'X' then Source.bitsAndRun else .bits
      ⟨operator, source, affected, value, if affected = 0 then value else affected &&& value⟩

/-- The clauses for the same persons: an operator and letters, again and again. -/
def clausesFor (affected : Nat) : (steps : Nat) → Octets → Option (List Clause)
  | 0, _ => none
  | _, [] => some []
  | n + 1, c :: rest =>
    if !isOperator c then none
    else do
      let t := rest.takeWhile (!isOperator ·)
      let first ← clause? affected c t
      return first :: (← clausesFor affected n (rest.drop t.length))

/-- A change of permissions as it is written. -/
def ofText? (t : Octets) : Option (List Clause) :=
  if t ≠ [] ∧ t.all isOctal then
    let value := octalValue t
    if value > all then none
    else some [⟨'=', .bits, all, value, if t.length < 5 then (value &&& 0o7000) ||| 0o777 else all⟩]
  else do
    let parts ← (Text.split ',' t).mapM fun part =>
      let who := part.takeWhile fun c => (whoBits c).isSome
      let rest := part.drop who.length
      if rest = [] then none
      else clausesFor (orAll (who.filterMap whoBits)) (rest.length + 1) rest
    return parts.flatten

def spread (value : Nat) : Nat :=
  orAll ([0o444, 0o222, 0o111].map fun bits => if value &&& bits = 0 then 0 else bits)

def without (mode bits : Nat) : Nat := mode &&& (all ^^^ bits)

def applyClause (isDir : Bool) (umask : Nat) (mode : Nat) (c : Clause) : Nat :=
  let kept := if isDir then without 0o6000 c.mentioned else 0
  let value := match c.source with
    | .bits => c.value
    | .copy => spread (c.value &&& mode)
    | .bitsAndRun => if isDir || mode &&& 0o111 != 0 then c.value ||| 0o111 else c.value
  let reached := without (if c.affected = 0 then without all umask else c.affected) kept
  let value := value &&& reached
  match c.operator with
  | '+' => mode ||| value
  | '-' => without mode value
  | _ => (mode &&& ((if c.affected = 0 then 0 else without all c.affected) ||| kept)) ||| value

/-- The permissions after a change. -/
def applyAll (isDir : Bool) (umask : Nat) (clauses : List Clause) (mode : Nat) : Nat :=
  clauses.foldl (applyClause isDir umask) mode

/-- The permissions in nine letters. -/
def letters (mode : Nat) : Octets :=
  let triple (shift special : Nat) (mark : Char) : Octets :=
    let bits := mode >>> shift
    let runs := bits % 2 = 1
    let isSpecial := mode &&& special ≠ 0
    [if bits % 8 / 4 = 1 then 'r' else '-', if bits % 4 / 2 = 1 then 'w' else '-',
      if isSpecial then (if runs then mark else mark.toUpper) else if runs then 'x' else '-']
  triple 6 0o4000 's' ++ triple 3 0o2000 's' ++ triple 0 0o1000 't'

def octalText (width n : Nat) : Octets :=
  let ds := Nat.toDigits 8 n
  List.replicate (width - ds.length) '0' ++ ds

end KarelBuild.Shell.Mode
