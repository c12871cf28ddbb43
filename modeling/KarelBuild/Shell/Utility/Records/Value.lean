import KarelBuild.Shell.Utility.Records.Basic

/-!
# Values

A value is a number or a text. Text that was taken in counts as a number where it looks like one, and what has
not been given any value counts as both the number 0 and the empty text.
-/

namespace KarelBuild.Shell

namespace Real

/-- The machine number nearest to a number. -/
def toFloat (x : Real) : Float :=
  let m : Float := match x.magnitude with
    | .finite m e => (Float.ofNat m).scaleB e
    | .infinite => 1.0 / 0.0
    | .undefined => Float.ofBits 0x7ff8000000000000
  if x.negative then -m else m

/-- What a machine number stands for: a sign bit, 11 bits for the exponent and 52 behind the leading one. What is
no number comes of calculations, which give it the sign bit. -/
def ofFloat (x : Float) : Real :=
  let bits := x.toBits.toNat
  let negative := bits >>> 63 == 1
  let exponent := (bits >>> 52) % 0x800
  let part := bits % 0x10000000000000
  if exponent = 0x7ff then if part = 0 then ⟨negative, .infinite⟩ else ⟨true, .undefined⟩
  else if exponent = 0 then ⟨negative, .finite part (-1074)⟩
  else ⟨negative, .finite (part + 0x10000000000000) ((exponent : Int) - 1075)⟩

/-- The whole number that a number is. -/
def whole? (x : Real) : Option Int :=
  match x.magnitude with
  | .finite m e =>
    let n := if e < 0 then m >>> e.natAbs else m <<< e.natAbs
    if 0 ≤ e ∨ n <<< e.natAbs = m then some (if x.negative then -(n : Int) else n) else none
  | _ => none

/-- The whole number between a number and zero. -/
def truncated (x : Real) : Int :=
  match x.magnitude with
  | .finite m e =>
    let n := if e < 0 then m >>> e.natAbs else m <<< e.natAbs
    if x.negative then -(n : Int) else n
  | .infinite => if x.negative then -0x10000000000000000 else 0x10000000000000000
  | .undefined => 0

/-- What is left of a number when another is taken off as often as it goes in. -/
def remainder (x y : Real) : Real :=
  match x.magnitude, y.magnitude with
  | .finite m e, .finite n f =>
    let low := min e f
    let a := m <<< (e - low).toNat
    let b := n <<< (f - low).toNat
    if b = 0 then ⟨true, .undefined⟩ else ⟨x.negative, .finite (a % b) low⟩
  | .finite m e, .infinite => ⟨x.negative, .finite m e⟩
  | _, _ => ⟨true, .undefined⟩

end Real

namespace Records

inductive Cell where
  | unset
  | number (x : Float)
  | text (o : Octets)
  /-- Text that was taken in. -/
  | input (o : Octets)

def isBlank (c : Char) : Bool := c == ' ' || ('\t' ≤ c && c ≤ '\r')

def isSpace (c : Char) : Bool := c == ' ' || c == '\t' || c == '\n'

/-- Whether a text is a decimal number and nothing else, blanks around it apart. -/
def looksNumeric (o : Octets) : Bool :=
  let t := o.dropWhile isBlank
  let t := match t with
    | '-' :: r => r
    | '+' :: r => r
    | r => r
  let digits := t.takeWhile Char.isDigit
  let rest := t.drop digits.length
  let (part, rest) := match rest with
    | '.' :: r => (r.takeWhile Char.isDigit, r.dropWhile Char.isDigit)
    | r => ([], r)
  let rest := (Real.exponent rest).2
  (digits ≠ [] || part ≠ []) && rest.all isBlank

/-- The number in front of a text, or else 0. -/
def numberIn (o : Octets) : Float :=
  match Real.read? 53 o with
  | some (x, _) => x.toFloat
  | none => 0.0

/-- The text of a whole number, as far as those of the machine go. -/
def wholeText? (x : Float) : Option Octets :=
  match (Real.ofFloat x).whole? with
  | some n =>
    if -0x8000000000000000 ≤ n ∧ n < 0x10000000000000000 then some (Text.ofInt n)
    else if n = 0x10000000000000000 then some (Text.ofInt (n - 1))
    else none
  | none => none

def ofBool (b : Bool) : Cell := .number (if b then 1.0 else 0.0)

def ofNat (n : Nat) : Cell := .number (Float.ofNat n)

def ofInt (n : Int) : Cell := .number (Float.ofInt n)

namespace Cell

def toNumber : Cell → Float
  | unset => 0.0
  | number x => x
  | text o => numberIn o
  | input o => numberIn o

def isTrue : Cell → Bool
  | unset => false
  | number x => x != 0.0
  | text o => o ≠ []
  | input o => if looksNumeric o then numberIn o != 0.0 else o ≠ []

/-- The number that a value is to be compared as, if it counts as one. -/
def number? : Cell → Option Float
  | unset => some 0.0
  | number x => some x
  | text _ => none
  | input o => if looksNumeric o then some (numberIn o) else none

end Cell

def Comparison.ofNumbers (c : Comparison) (x y : Float) : Bool :=
  match c with
  | less => x < y
  | atMost => x ≤ y
  | equal => x == y
  | unequal => x != y
  | greater => y < x
  | atLeast => y ≤ x

def Comparison.ofTexts (c : Comparison) (x y : Octets) : Bool :=
  match c with
  | less => !Text.le y x
  | atMost => Text.le x y
  | equal => x == y
  | unequal => x != y
  | greater => !Text.le x y
  | atLeast => Text.le y x

def Operator.apply (op : Operator) (x y : Float) : Float :=
  match op with
  | add => x + y
  | subtract => x - y
  | multiply => x * y
  | divide => x / y
  | remainder => ((Real.ofFloat x).remainder (Real.ofFloat y)).toFloat
  | power => Float.pow x y

/-- The whole number nearest to a number; a half goes to the even neighbour. -/
def rounded (x : Float) : Int :=
  match (Real.ofFloat x).magnitude with
  | .finite m e =>
    let n := if e < 0 then Real.roundDiv m (1 <<< e.natAbs) else m <<< e.natAbs
    if x < 0.0 then -(n : Int) else n
  | .infinite => if x < 0.0 then -0x80000000 else 0x7fffffff
  | .undefined => 0

/-- So many characters of a text from one on, of which the first has the number 1. -/
def cutOut (o : Octets) (first : Float) (length : Option Float) : Octets :=
  let start := rounded first
  let o' := o.drop (start - 1).toNat
  match length with
  | none => o'
  | some n => o'.take (rounded (first + n) - max start 1).toNat

end Records

end KarelBuild.Shell
