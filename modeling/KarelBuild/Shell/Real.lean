import KarelBuild.Text

/-!
# Real numbers

Numbers with a binary exponent, as machines keep them, and their decimal forms. A decimal number is
rounded once when it is read and once when it is written; a half goes to the even neighbour.
-/

namespace KarelBuild.Shell

/-- `mantissa * 2 ^ exponent`, infinity, or no number. -/
inductive Magnitude where
  | finite (mantissa : Nat) (exponent : Int)
  | infinite
  | undefined
  deriving DecidableEq, Repr

structure Real where
  negative : Bool
  magnitude : Magnitude
  deriving DecidableEq, Repr

namespace Real

def ofNat (n : Nat) : Real := ⟨false, .finite n 0⟩

/-- A quotient rounded to a whole number. -/
def roundDiv (n d : Nat) : Nat :=
  let q := n / d
  let twice := 2 * (n % d)
  if twice < d ∨ (twice = d ∧ q % 2 = 0) then q else q + 1

/-- How many binary digits a number has. -/
def bitLength (n : Nat) : Nat := if n = 0 then 0 else Nat.log2 n + 1

def pow10 (n : Nat) : Nat := Nat.pow 10 n

/-- A quotient rounded to a mantissa of so many binary digits. -/
def ofRatio (bits : Nat) (n d : Nat) : Magnitude :=
  if n = 0 then .finite 0 0
  else
    let shift : Int := (bits : Int) - ((bitLength n : Int) - (bitLength d : Int))
    let scaled (k : Int) : Nat × Nat := if k < 0 then (n, d <<< k.natAbs) else (n <<< k.natAbs, d)
    let (a, b) := scaled shift
    let (a, b, shift) := if bits < bitLength (a / b) then
        let (a, b) := scaled (shift - 1)
        (a, b, shift - 1)
      else (a, b, shift)
    .finite (roundDiv a b) (-shift)

/-! ## Reading -/

def isDigit (c : Char) : Bool := c.isDigit

def natOf (t : Text) : Nat := t.foldl (fun n c => n * 10 + (c.toNat - '0'.toNat)) 0

/-- An exponent behind `e`, and what follows. -/
def exponent (t : Text) : Int × Text :=
  match t with
  | e :: r =>
    if e = 'e' ∨ e = 'E' then
      let (negative, digits) := match r with
        | '-' :: r => (true, r)
        | '+' :: r => (false, r)
        | r => (false, r)
      let ds := digits.takeWhile isDigit
      if ds = [] then (0, t)
      else (if negative then -(natOf ds : Int) else natOf ds, digits.drop ds.length)
    else (0, t)
  | [] => (0, [])

def largestExponent : Int := 5000

/-- The magnitude in front of a text, and what follows; `none` if there is none. -/
def magnitude? (bits : Nat) (t : Text) : Option (Magnitude × Text) :=
  let lower := t.map Char.toLower
  if "infinity".toList.isPrefixOf lower then some (.infinite, t.drop 8)
  else if "inf".toList.isPrefixOf lower then some (.infinite, t.drop 3)
  else if "nan".toList.isPrefixOf lower then some (.undefined, t.drop 3)
  else
    let whole := t.takeWhile isDigit
    let behind := t.drop whole.length
    let (part, rest) := match behind with
      | '.' :: r => (r.takeWhile isDigit, r.dropWhile isDigit)
      | r => ([], r)
    if whole = [] ∧ part = [] then none
    else
      let (e, rest) := exponent rest
      let n := natOf (whole ++ part)
      let scale := e - part.length
      if largestExponent < scale ∧ n ≠ 0 then some (.infinite, rest)
      else if scale < -largestExponent then some (.finite 0 0, rest)
      else if scale < 0 then some (ofRatio bits n (pow10 scale.natAbs), rest)
      else some (ofRatio bits (n * pow10 scale.natAbs) 1, rest)

/-- Hexadecimal digits of a whole number behind `0x`. -/
def hex? (bits : Nat) (t : Text) : Option (Magnitude × Text) :=
  let value (c : Char) : Nat :=
    if c.isDigit then c.toNat - 48 else if 'a' ≤ c ∧ c ≤ 'f' then c.toNat - 87 else c.toNat - 55
  let isHex (c : Char) : Bool := c.isDigit || ('a' ≤ c && c ≤ 'f') || ('A' ≤ c && c ≤ 'F')
  match t with
  | '0' :: x :: r =>
    let ds := r.takeWhile isHex
    if (x = 'x' ∨ x = 'X') ∧ ds ≠ [] then
      some (ofRatio bits (ds.foldl (fun n c => n * 16 + value c) 0) 1, r.drop ds.length)
    else none
  | _ => none

/-- The number in front of a text, and what follows; blanks in front do not count. -/
def read? (bits : Nat) (t : Text) : Option (Real × Text) :=
  let t := t.dropWhile fun c => c == ' ' || ('\t' ≤ c && c ≤ '\r')
  let (negative, r) := match t with
    | '-' :: r => (true, r)
    | '+' :: r => (false, r)
    | r => (false, r)
  ((hex? bits r).orElse fun _ => magnitude? bits r).map fun (m, rest) => (⟨negative, m⟩, rest)

/-! ## Writing -/

/-- The number as a quotient. -/
def ratio (mantissa : Nat) (exponent : Int) : Nat × Nat :=
  if exponent < 0 then (mantissa, 1 <<< exponent.natAbs) else (mantissa <<< exponent.natAbs, 1)

/-- Decimal digits with a point before the last `places` of them. -/
def pointed (places : Nat) (keepsPoint : Bool) (n : Nat) : Text :=
  let ds := Nat.toDigits 10 n
  let ds := List.replicate (places + 1 - ds.length) '0' ++ ds
  let whole := ds.take (ds.length - places)
  if places = 0 then (if keepsPoint then whole ++ ['.'] else whole)
  else whole ++ '.' :: ds.drop (ds.length - places)

/-- With a fixed number of places. -/
def fixed (places : Nat) (keepsPoint : Bool) (mantissa : Nat) (exponent : Int) : Text :=
  let (n, d) := ratio mantissa exponent
  pointed places keepsPoint (roundDiv (n * pow10 places) d)

/-- The decimal exponent of a quotient: how often ten goes into it. -/
def decimalExponent (n d : Nat) : Int :=
  let guess : Int := (Nat.toDigits 10 n).length - (Nat.toDigits 10 d).length
  let isAtLeast (k : Int) : Bool :=
    if k < 0 then d ≤ n * pow10 k.natAbs else d * pow10 k.natAbs ≤ n
  if isAtLeast guess then guess else guess - 1

/-- The digits of a quotient with so many places behind the first, and the decimal exponent. -/
def digitsOf (places : Nat) (n d : Nat) : Nat × Int :=
  if n = 0 then (0, 0)
  else
    let e := decimalExponent n d
    let shift := (places : Int) - e
    let q := if shift < 0 then roundDiv n (d * pow10 shift.natAbs) else roundDiv (n * pow10 shift.natAbs) d
    if q = pow10 (places + 1) then (pow10 places, e + 1) else (q, e)

def exponentText (letter : Char) (e : Int) : Text :=
  let ds := Nat.toDigits 10 e.natAbs
  letter :: (if e < 0 then '-' else '+') :: List.replicate (2 - ds.length) '0' ++ ds

/-- With one digit before the point, and an exponent. -/
def scientific (places : Nat) (keepsPoint : Bool) (letter : Char) (mantissa : Nat) (exponent : Int) :
    Text :=
  let (n, d) := ratio mantissa exponent
  let (q, e) := digitsOf places n d
  pointed places keepsPoint q ++ exponentText letter e

def dropZeros (t : Text) : Text :=
  if t.contains '.' then
    let back := t.reverse.dropWhile (· == '0')
    (if back.head? = some '.' then back.drop 1 else back).reverse
  else t

/-- The shorter of both forms, with so many digits in all; zeros at the end go unless they are kept. -/
def general (digits : Nat) (keepsZeros : Bool) (letter : Char) (mantissa : Nat) (exponent : Int) : Text :=
  let digits := max digits 1
  let (n, d) := ratio mantissa exponent
  let (q, e) := digitsOf (digits - 1) n d
  if e < -4 ∨ (digits : Int) ≤ e then
    let t := pointed (digits - 1) keepsZeros q
    (if keepsZeros then t else dropZeros t) ++ exponentText letter e
  else
    let t := fixed ((digits : Int) - 1 - e).toNat keepsZeros mantissa exponent
    if keepsZeros then t else dropZeros t

/-- The text of a number in the form that a letter stands for, without its sign. -/
def format (letter : Char) (precision : Option Nat) (alternate : Bool) (m : Magnitude) : Text :=
  let places := precision.getD 6
  let upper := letter.isUpper
  match m with
  | .infinite => if upper then "INF".toList else "inf".toList
  | .undefined => if upper then "NAN".toList else "nan".toList
  | .finite mantissa exponent =>
    let e := if upper then 'E' else 'e'
    match letter.toLower with
    | 'f' => fixed places alternate mantissa exponent
    | 'e' => scientific places alternate e mantissa exponent
    | _ => general places alternate e mantissa exponent

/-- The text of a number in hexadecimal digits, of which the first takes in what is left of so many binary digits,
and a power of two. -/
def hexadecimal (bits : Nat) (precision : Option Nat) (keepsPoint : Bool) (m : Magnitude) : Text :=
  match m with
  | .infinite => "inf".toList
  | .undefined => "nan".toList
  | .finite mantissa exponent =>
    let behind := (bits - 1) / 4
    let size := bitLength mantissa
    let wide := if size ≤ bits then mantissa <<< (bits - size) else mantissa >>> (size - bits)
    let power : Int := if mantissa = 0 then 0 else exponent + size - bits + 4 * behind
    let places := precision.getD behind
    let kept := if places < behind then roundDiv wide (1 <<< (4 * (behind - places)))
      else wide <<< (4 * (places - behind))
    let digits := Nat.toDigits 16 kept
    let digits := List.replicate (places + 1 - digits.length) '0' ++ digits
    let first := digits.take (digits.length - places)
    let rest := digits.drop (digits.length - places)
    let rest := if precision.isSome then rest else (rest.reverse.dropWhile (· == '0')).reverse
    "0x".toList ++ first ++ (if rest = [] ∧ !keepsPoint then [] else '.' :: rest) ++
      'p' :: (if power < 0 then '-' else '+') :: Nat.toDigits 10 power.natAbs

end Real

end KarelBuild.Shell
