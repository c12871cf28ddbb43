import KarelBuild.Toml.Value

/-!
# Numbers, dates and truth values

A scalar is one word; only a date and a time may have a blank between them. Integers fit in 64 bits,
and a float that is too large for its type is refused unless it is negative.
-/

namespace KarelBuild.Toml.Scalar

/-! ## Integers -/

/-- Digits with at most one underscore between two of them. -/
def isDigits (isDigit : Char → Bool) : Text → Bool
  | [] => false
  | [c] => isDigit c
  | c :: d :: r =>
    isDigit c && if d = '_' then isDigits isDigit r else isDigits isDigit (d :: r)

def digitValue (c : Char) : Nat :=
  if c.isDigit then c.toNat - '0'.toNat
  else if 'a' ≤ c ∧ c ≤ 'z' then c.toNat - 'a'.toNat + 10
  else c.toNat - 'A'.toNat + 10

/-- The number that digits of a base stand for; underscores do not count. -/
def valueIn (base : Nat) (digits : Text) : Nat :=
  (digits.filter (· != '_')).foldl (fun n c => n * base + digitValue c) 0

def isHexDigit (c : Char) : Bool :=
  c.isDigit || ('a' ≤ c && c ≤ 'f') || ('A' ≤ c && c ≤ 'F')

def isOctalDigit (c : Char) : Bool := '0' ≤ c && c ≤ '7'

def isBinaryDigit (c : Char) : Bool := c == '0' || c == '1'

/-- Decimal digits without a needless zero in front. -/
def isWhole (t : Text) : Bool := t == ['0'] || (t.head? != some '0' && isDigits Char.isDigit t)

/-- A word in a sign and the rest. -/
def signed : Text → Bool × Text
  | '-' :: r => (true, r)
  | '+' :: r => (false, r)
  | r => (false, r)

/-- The largest whole number, which has 63 bits. -/
def largest : Nat := 0x7fffffffffffffff

def isDecimal (t : Text) : Bool :=
  let (negative, digits) := signed t
  isWhole digits && valueIn 10 digits ≤ (if negative then largest + 1 else largest)

def isInteger : Text → Bool
  | '0' :: 'x' :: r => isDigits isHexDigit r && valueIn 16 r ≤ largest
  | '0' :: 'o' :: r => isDigits isOctalDigit r && valueIn 8 r ≤ largest
  | '0' :: 'b' :: r => isDigits isBinaryDigit r && valueIn 2 r ≤ largest
  | t => isDecimal t

/-! ## Floats -/

/-- The least number that rounds to infinity, half a step above the largest float: 54 bits that are
all set, and 970 zeros. -/
def floatLimit : Nat := 0x3fffffffffffff <<< 970

/-- Whether `m` times ten to the power of `x` is out of range, for an `m` of at most `count`
digits. -/
def overflows (count m : Nat) (x : Int) : Bool :=
  if m = 0 ∨ count + x ≤ 308 then false
  else if 308 < x then true
  else if 0 ≤ x then floatLimit ≤ m * Nat.pow 10 x.toNat
  else floatLimit * Nat.pow 10 (-x).toNat ≤ m

def lowerExponent (c : Char) : Char := if c = 'E' then 'e' else c

structure Float where
  negative : Bool
  whole : Text
  fraction : Option Text
  exponent : Option (Bool × Text)

namespace Float

def of (t : Text) : Float :=
  let (negative, r) := signed t
  let (mantissa, exponent) := Text.cut 'e' (r.map lowerExponent)
  let (whole, fraction) := Text.cut '.' mantissa
  ⟨negative, whole, fraction, exponent.map signed⟩

def isWellFormed (f : Float) : Bool :=
  isWhole f.whole && (f.fraction.isSome || f.exponent.isSome) &&
    f.fraction.all (isDigits Char.isDigit) && f.exponent.all fun (_, e) => isDigits Char.isDigit e

def power (f : Float) : Int :=
  match f.exponent with
  | none => 0
  | some (negative, digits) => if negative then -valueIn 10 digits else valueIn 10 digits

def isInRange (f : Float) : Bool :=
  let fraction := (f.fraction.getD []).filter (· != '_')
  let digits := f.whole ++ fraction
  f.negative || !overflows digits.length (valueIn 10 digits) (f.power - fraction.length)

end Float

def isSpecial (t : Text) : Bool :=
  let (_, r) := signed t
  r == "inf".toList || r == "nan".toList

def isFloat (t : Text) : Bool :=
  isSpecial t || ((Float.of t).isWellFormed && (Float.of t).isInRange)

/-! ## Dates and times -/

/-- A number of fixed width within bounds, and what follows it. -/
def bounded? (width low high : Nat) (s : Text) : Option (Nat × Text) :=
  let digits := s.take width
  let n := valueIn 10 digits
  if digits.length = width ∧ digits.all Char.isDigit ∧ low ≤ n ∧ n ≤ high then some (n, s.drop width)
  else none

def expect? (c : Char) : Text → Option Text
  | d :: r => if d = c then some r else none
  | [] => none

def isLeap (year : Nat) : Bool := year % 4 == 0 && (year % 100 != 0 || year % 400 == 0)

def daysIn (year month : Nat) : Nat :=
  if month = 2 then (if isLeap year then 29 else 28)
  else if [4, 6, 9, 11].contains month then 30
  else 31

def date? (s : Text) : Option Text := do
  let (year, s) ← bounded? 4 0 9999 s
  let (month, s) ← bounded? 2 1 12 (← expect? '-' s)
  let (_, s) ← bounded? 2 1 (daysIn year month) (← expect? '-' s)
  return s

/-- Digits after a point, if there is one. -/
def fraction? : Text → Option Text
  | '.' :: r =>
    if (r.head?.map Char.isDigit).getD false then some (r.dropWhile Char.isDigit) else none
  | s => some s

/-- A time; a minute may have a leap second. -/
def time? (s : Text) : Option Text := do
  let (_, s) ← bounded? 2 0 23 s
  let (_, s) ← bounded? 2 0 59 (← expect? ':' s)
  let (_, s) ← bounded? 2 0 60 (← expect? ':' s)
  fraction? s

def offset? : Text → Option Text
  | [] => some []
  | c :: s =>
    if c = 'Z' ∨ c = 'z' then some s
    else if c = '+' ∨ c = '-' then do
      let (_, s) ← bounded? 2 0 23 s
      let (_, s) ← bounded? 2 0 59 (← expect? ':' s)
      return s
    else none

def isDate (t : Text) : Bool := date? t == some []

def isTimeMark (c : Char) : Bool := c == 'T' || c == 't' || c == ' '

/-- A time, a date, or a date with a time that may have an offset. -/
def isMoment (t : Text) : Bool :=
  time? t == some [] || isDate t ||
    match date? t with
    | some (c :: r) => isTimeMark c && (time? r).bind offset? == some []
    | _ => false

/-! ## Words -/

/-- What may follow a value. -/
def isDelimiter (c : Char) : Bool := " \t\r\n,]\x7d#".toList.contains c

def word (s : Text) : Text := s.takeWhile (!isDelimiter ·)

/-- A word, or a date and the time behind it. -/
def spelled (s : Text) : Text :=
  let w := word s
  match s.drop w.length with
  | ' ' :: c :: r => if isDate w && c.isDigit then w ++ ' ' :: word (c :: r) else w
  | _ => w

def ofWord? (w : Text) : Option Value :=
  if w = "true".toList then some (.boolean true)
  else if w = "false".toList then some (.boolean false)
  else if isMoment w then some (.moment w)
  else if isFloat w || isInteger w then some (.number w)
  else none

theorem drop_length {w s : Text} (hw : w ≠ []) (hs : s ≠ []) : (s.drop w.length).length < s.length := by
  have := List.length_pos_iff.mpr hw
  have := List.length_pos_iff.mpr hs
  rw [List.length_drop]
  omega

def read? (s : Text) : Option (Value × Rest s) :=
  if h : spelled s ≠ [] ∧ s ≠ [] then
    (ofWord? (spelled s)).map fun v => (v, ⟨s.drop (spelled s).length, drop_length h.1 h.2⟩)
  else none

end KarelBuild.Toml.Scalar
