import KarelBuild.Shell.Utility.Streams

/-!
# Bytes as text

Bytes are written as digits of a base that is a power of two, in groups of as many digits as make up whole bytes;
a last group that is not full is filled up with a mark. When digits are read, those of a group that is wrong
count as far as they make up bytes.
-/

namespace KarelBuild.Shell.Utility

open ShellM

namespace Encoding

/-- A base: its digits, how many bits each has, how many make up a group, what fills up the last one, and whether
a group counts only as a whole. -/
structure Base where
  digits : Array Char
  bits : Nat
  group : Nat
  filler : Option Char := none
  wholeGroups : Bool := true
  /-- Whether the digits of a byte stand with the lowest one first. -/
  lowFirst : Bool := false

namespace Base

def letters : String := "ABCDEFGHIJKLMNOPQRSTUVWXYZ"

def sixtyFour : Base :=
  { digits := (letters ++ "abcdefghijklmnopqrstuvwxyz0123456789+/").toList.toArray, bits := 6, group := 4
    filler := some '=', wholeGroups := false }

def sixtyFourSafe : Base :=
  { sixtyFour with digits := (letters ++ "abcdefghijklmnopqrstuvwxyz0123456789-_").toList.toArray }

def thirtyTwo : Base :=
  { digits := (letters ++ "234567").toList.toArray, bits := 5, group := 8, filler := some '=' }

def thirtyTwoOrdered : Base :=
  { thirtyTwo with digits := "0123456789ABCDEFGHIJKLMNOPQRSTUV".toList.toArray }

def sixteen : Base := { digits := "0123456789ABCDEF".toList.toArray, bits := 4, group := 2 }

def two : Base := { digits := #['0', '1'], bits := 1, group := 8 }

def twoLowFirst : Base := { two with lowFirst := true }

/-- How many bytes make up a group. -/
def groupBytes (b : Base) : Nat := b.bits * b.group / 8

/-- The digits of a group of bytes, which may be too few. -/
def encodeGroup (b : Base) (bytes : Octets) : Octets :=
  let n := bytes.foldl (fun n c => n * 256 + c.toNat) 0
  let n := n <<< (8 * (b.groupBytes - bytes.length))
  let count := (8 * bytes.length + b.bits - 1) / b.bits
  let digits := (List.range count).map fun i =>
    b.digits.getD (n >>> (b.bits * (b.group - 1 - i)) % b.digits.size) '='
  let digits := if b.lowFirst then digits.reverse else digits
  digits ++ match b.filler with
    | some c => List.replicate (b.group - count) c
    | none => []

/-- Split into parts of one size, of which the last one may be shorter. -/
def partsOf (size : Nat) : (steps : Nat) → Octets → (back : List Octets) → List Octets
  | 0, _, back => back.reverse
  | _, [], back => back.reverse
  | n + 1, o, back => partsOf size n (o.drop size) (o.take size :: back)

def encode (b : Base) (o : Octets) : Octets :=
  (partsOf b.groupBytes (o.length + 1) o []).flatMap b.encodeGroup

/-- The bytes of a group of digits, and whether the group is right. -/
def decodeGroup (b : Base) (group : Octets) : Octets × Bool :=
  let values := (group.map fun c => b.digits.findIdx? (· == c)).takeWhile Option.isSome
  let count := values.length
  let digits := values.map fun v => v.getD 0
  let digits := if b.lowFirst then digits.reverse else digits
  let n := digits.foldl (fun n v => n * b.digits.size + v) 0
  let n := n <<< (b.bits * (b.group - count))
  let size := b.bits * count / 8
  let bytes := (List.range size).map fun i => Char.ofNat (n >>> (8 * (b.groupBytes - 1 - i)) % 256)
  let isFull := group.length == b.group
  let endsWell := b.filler.any fun c =>
    (8 * size + b.bits - 1) / b.bits == count && count ≠ 0 && (group.drop count).all (· == c)
  let isRight := isFull && (count == b.group || endsWell)
  (if b.wholeGroups && !isFull then [] else bytes, isRight)

/-- The bytes up to the first group that is wrong, and whether there is none. -/
def decode (b : Base) (o : Octets) : Octets × Bool :=
  let (back, fine) := (partsOf b.group (o.length + 1) o []).foldl (fun (back, fine) group =>
    if fine then
      let (bytes, isRight) := b.decodeGroup group
      (bytes :: back, isRight)
    else (back, false)) (([] : List Octets), true)
  (back.reverse.flatten, fine)

end Base

/-- Text in lines of one width. -/
def wrapped (width : Nat) (o : Octets) : Octets :=
  if width = 0 then o else unlines (Base.partsOf width (o.length + 1) o [])

def encodingForms : List OptionForm := forms [('d', "decode"), ('i', "ignore-garbage")] [('w', "wrap")]

/-- Write what is in an operand as digits, or the bytes that digits stand for. -/
def convert (b : Base) (g : Given) : ShellM Nat := do
  let width ← match g.value? 'w' with
    | none => pure 76
    | some v => if isNumber v then pure (digitsValue v) else stop 1 ("invalid wrap size: ".toList ++ quoted v)
  match g.operands with
  | _ :: extra :: _ => misuse 1 ("extra operand ".toList ++ quoted extra)
  | _ =>
    let name := g.operands.headD ['-']
    match ← readOperand name with
    | .error e =>
      if name = ['-'] ∨ e = .isDirectory then stop 1 ("read error: ".toList ++ e.wording.toList) else stop 1 (reason name e)
    | .ok o =>
      if g.has 'd' then
        let isDigit (c : Char) : Bool := b.digits.contains c || b.filler == some c
        let (bytes, isRight) := b.decode (o.filter fun c => c != '\n' && (!g.has 'i' || isDigit c))
        emit bytes
        if isRight then return 0 else stop 1 "invalid input".toList
      else
        emit (wrapped width (b.encode o))
        return 0

def base64 : Utility := fun _ args => do convert .sixtyFour (← given encodingForms args)

def base32 : Utility := fun _ args => do convert .thirtyTwo (← given encodingForms args)

/-- Convert to and from the base that an option names. -/
def basenc : Utility := fun _ args => do
  let g ← given (encodingForms ++ forms [('\x01', "base64"), ('\x02', "base64url"), ('\x03', "base32"),
    ('\x04', "base32hex"), ('\x05', "base16"), ('\x06', "base2msbf"), ('\x07', "base2lsbf")] []) args
  let bases : List (Char × Base) := [('\x01', .sixtyFour), ('\x02', .sixtyFourSafe), ('\x03', .thirtyTwo),
    ('\x04', .thirtyTwoOrdered), ('\x05', .sixteen), ('\x06', .two), ('\x07', .twoLowFirst)]
  match (g.options.filterMap fun o => bases.lookup o.1).getLast? with
  | none => misuse 1 "missing encoding type".toList
  | some b => convert b g

end Encoding

end KarelBuild.Shell.Utility
