import KarelBuild.Shell.Format
import KarelBuild.Shell.Utility.Records.Value
import KarelBuild.Shell.Utility.Scripts.Basic

/-!
# Values of scripts

A value is a number or a text, or it refers to something. Texts count as the number that they begin with. Whole
numbers are calculated with as long as they fit into 64 bits.
-/

namespace KarelBuild.Shell.Scripts

inductive Value where
  | undef
  | whole (n : Int)
  | real (x : Float)
  | text (o : Octets)
  /-- A number that is written in another way. -/
  | dual (n : Int) (o : Octets)
  /-- What is kept in a slot. -/
  | ref (slot : Nat)
  | handle (n : Nat)
  /-- An expression with its text and switches, and the names of its groups. -/
  | pattern (r : Regex) (source : Octets) (switches : Text) (names : List (Text × Nat))

instance : Inhabited Value := ⟨.undef⟩

inductive Number where
  | whole (n : Int)
  | real (x : Float)

namespace Number

def leastWhole : Int := -0x8000000000000000

/-- From here on no whole number fits. -/
def wholeEnd : Int := 0x10000000000000000

/-- Whole numbers below this one are machine numbers too. -/
def exactEnd : Int := 0x20000000000000

def toFloat : Number → Float
  | whole n => Float.ofInt n
  | real x => x

def ofInt (n : Int) : Number := if leastWhole ≤ n ∧ n < wholeEnd then whole n else real (Float.ofInt n)

/-- A number as a whole one where it is one. -/
def settled : Number → Number
  | whole n => whole n
  | real x =>
    match (Real.ofFloat x).whole? with
    | some n => if -exactEnd < n ∧ n < exactEnd ∧ !(n = 0 ∧ (Real.ofFloat x).negative) then whole n else real x
    | none => real x

def truncated : Number → Int
  | whole n => n
  | real x => (Real.ofFloat x).truncated

def isZero : Number → Bool
  | whole n => n = 0
  | real x => x == 0.0

/-- A number of 64 bits. -/
def bits (a : Number) : Nat :=
  match a with
  | whole n => (n % wholeEnd).toNat
  | real x =>
    let n := (Real.ofFloat x).truncated
    if n < 0 then (max leastWhole n % wholeEnd).toNat else (min n (wholeEnd - 1)).toNat

/-- The text of a number, which has up to 15 digits if it is not whole. -/
def text : Number → Octets
  | whole n => Text.ofInt n
  | real x =>
    let r := Real.ofFloat x
    match r.magnitude with
    | .undefined => "NaN".toList
    | .infinite => if r.negative then "-Inf".toList else "Inf".toList
    | m => (if r.negative then ['-'] else []) ++ Real.format 'g' (some 15) false m

/-! ## Reading -/

/-- The number that a text begins with. -/
def ofText (o : Octets) : Number :=
  let t := o.dropWhile Records.isBlank
  let (negative, t) := match t with
    | '-' :: r => (true, r)
    | '+' :: r => (false, r)
    | r => (false, r)
  let digits := t.takeWhile Char.isDigit
  let rest := t.drop digits.length
  let isWhole := !(match rest with
    | '.' :: _ => true
    | 'e' :: _ => true
    | 'E' :: _ => true
    | _ => false)
  let whole? : Option Number :=
    if digits ≠ [] ∧ isWhole then
      let n : Int := Real.natOf digits
      let n := if negative then -n else n
      if leastWhole ≤ n ∧ n < wholeEnd then some (whole n) else none
    else none
  match whole? with
  | some n => n
  | none =>
    match Real.magnitude? 53 t with
    | some (m, _) => real (Real.toFloat ⟨negative, m⟩)
    | none => whole 0

/-- Whether a text is a number and nothing else. -/
def isSpelled (o : Octets) : Bool :=
  let t := o.dropWhile Records.isBlank
  let t := match t with
    | '-' :: r => r
    | '+' :: r => r
    | r => r
  match Real.magnitude? 53 t with
  | some (_, rest) => rest.all Records.isBlank
  | none => false

/-! ## Calculating -/

def negated : Number → Number
  | whole n => ofInt (-n)
  | real x => real (-x)

def both (f : Int → Int → Int) (g : Float → Float → Float) (a b : Number) : Number :=
  match a.settled, b.settled with
  | whole m, whole n => ofInt (f m n)
  | a, b => real (g a.toFloat b.toFloat)

/-- A quotient, which is whole only where no machine number is exact. -/
def dividedBy (a b : Number) : Number :=
  match a.settled, b.settled with
  | whole m, whole n =>
    if n ≠ 0 ∧ m % n = 0 ∧ (m / n < exactEnd ∨ exactEnd ≤ m) then ofInt (m / n) else real (a.toFloat / b.toFloat)
  | a, b => real (a.toFloat / b.toFloat)

/-- What is left, which has the sign of the divisor. -/
def remainder (a b : Number) : Number :=
  let m := a.truncated
  let n := b.truncated
  if n = 0 then whole 0 else ofInt (Int.fmod m n)

/-- A power, as a whole number where that is exact. -/
def power (a b : Number) : Number :=
  match a.settled, b.settled with
  | whole m, whole n =>
    if 0 ≤ n ∧ n < 64 ∧ Nat.pow m.natAbs n.toNat < exactEnd.toNat then whole (Int.pow m n.toNat)
    else settled (real (Float.pow (Float.ofInt m) (Float.ofInt n)))
  | a, b => settled (real (Float.pow a.toFloat b.toFloat))

/-- Which of two numbers is less; there is none if one is no number. -/
def order? (a b : Number) : Option Ordering :=
  match a, b with
  | whole m, whole n => some (compare m n)
  | a, b =>
    let x := a.toFloat
    let y := b.toFloat
    if x < y then some .lt else if y < x then some .gt else if x == y then some .eq else none

end Number

/-- Which of two texts comes first. -/
def orderOfTexts : Octets → Octets → Ordering
  | [], [] => .eq
  | [], _ => .lt
  | _, [] => .gt
  | a :: s, b :: t => if a < b then .lt else if b < a then .gt else orderOfTexts s t

def Comparison.holds (c : Comparison) (o : Ordering) : Bool :=
  match c with
  | less => o == .lt
  | greater => o == .gt
  | atMost => o != .gt
  | atLeast => o != .lt
  | equal => o == .eq
  | unequal => o != .eq
  | order => false

namespace Value

/-- What a comparison gives: 1, or an empty text that counts as 0. -/
def ofBool (b : Bool) : Value := if b then whole 1 else text []

def ofNat (n : Nat) : Value := whole n

def ofNumber : Number → Value
  | .whole n => whole n
  | .real x => real x

/-- Which of two comes first, as a number. -/
def ofOrdering : Ordering → Value
  | .lt => whole (-1)
  | .eq => whole 0
  | .gt => whole 1

def isUndef : Value → Bool
  | undef => true
  | _ => false

/-- A text of which parts were found; what was not is no value. -/
def ofOption : Option Octets → Value
  | some o => text o
  | none => undef

/-- The text of an expression that is kept as a value. -/
def patternText (source : Octets) (switches : Text) : Octets :=
  "(?^".toList ++ switches ++ ':' :: source ++ (if switches.contains 'x' && source.contains '\n' then ['\n'] else []) ++
    [')']

def isTrue : Value → Bool
  | undef => false
  | whole n => n ≠ 0
  | real x => x != 0.0
  | text o => o ≠ [] && o ≠ ['0']
  | dual _ o => o ≠ [] && o ≠ ['0']
  | _ => true

end Value

/-- The text that comes after another: letters and digits count up, each in its own kind. -/
def following (o : Octets) : Octets :=
  let step (state : Bool × Octets) (c : Char) : Bool × Octets :=
    let (carry, back) := state
    if !carry then (false, c :: back)
    else if c = 'z' then (true, 'a' :: back)
    else if c = 'Z' then (true, 'A' :: back)
    else if c = '9' then (true, '0' :: back)
    else (false, Char.ofNat (c.toNat + 1) :: back)
  let (carry, t) := o.reverse.foldl step (true, [])
  if !carry then t
  else match t with
    | '0' :: _ => '1' :: t
    | c :: _ => c :: t
    | [] => []

/-- Whether a text counts up by its letters and digits. -/
def countsUp (o : Octets) : Bool :=
  o ≠ [] && (o.dropWhile Char.isAlpha).all Char.isDigit && !(o.all Char.isDigit)

/-- The texts from one to another, which end where they get longer. -/
def textsBetween (last : Octets) : (steps : Nat) → Octets → List Octets
  | 0, _ => []
  | n + 1, o =>
    if last.length < o.length then []
    else if o = last then [o]
    else o :: textsBetween last n (following o)

def maxSpan : Nat := 10000000

/-! ## Formats -/

/-- A count in a format: digits, or an argument where a star stands. -/
def countIn (t : Octets) (args : List Value) (number : Value → Number) : Option Int × Octets × List Value :=
  match t with
  | '*' :: r => (some (number (args.headD .undef)).truncated, r, args.drop 1)
  | _ =>
    let ds := t.takeWhile Char.isDigit
    (if ds = [] then none else some (Real.natOf ds : Int), t.drop ds.length, args)

def inBinary (n : Nat) : Octets := Nat.toDigits 2 n

/-- Digits behind a mark for what they are. -/
def markedDigits (l : Format.Layout) (lead ds : Octets) : Octets :=
  l.whole (if l.has '#' ∧ ds ≠ ['0'] then lead else []) ds

/-- A value by the letter of a conversion; `none` if there is no such letter. -/
def converted? (l : Format.Layout) (c : Char) (toText : Value → Octets) (number : Value → Number) (v : Value) :
    Option Octets :=
  let upper (o : Octets) : Octets := o.map Char.toUpper
  let hex : Octets := Nat.toDigits 16 (number v).bits
  match c with
  | 's' =>
    let o := toText v
    some (l.pad (match l.precision with
      | some n => o.take n
      | none => o))
  | 'c' => some (l.pad (codePointText (number v).truncated.toNat))
  | 'x' => some (markedDigits l "0x".toList hex)
  | 'X' => some (markedDigits l "0X".toList (upper hex))
  | 'o' => some (markedDigits l ['0'] (Nat.toDigits 8 (number v).bits))
  | 'b' => some (markedDigits l "0b".toList (inBinary (number v).bits))
  | 'B' => some (markedDigits l "0B".toList (inBinary (number v).bits))
  | 'u' => some (l.whole [] (Text.ofNat (number v).bits))
  | 'v' => some (l.pad (Text.join ['.'] ((toText v).map fun c => Text.ofNat c.toNat)))
  | _ =>
    let x := number v
    if c = 'd' ∨ c = 'i' then
      let isPlain := match x with
        | .whole _ => true
        | .real x => match (Real.ofFloat x).magnitude with
          | .finite _ _ => true
          | _ => false
      if isPlain then
        let n := x.truncated
        some (l.whole (l.sign (n < 0)) (Text.ofNat n.natAbs))
      else some (l.pad (if x.toFloat < 0.0 then "-1".toList else x.text))
    else if "eEfFgG".toList.contains c then
      let r := Real.ofFloat x.toFloat
      match r.magnitude with
      | .finite _ _ => some (l.signed true (l.sign r.negative) (Real.format c l.precision (l.has '#') r.magnitude))
      | _ => some (l.pad (l.sign (r.negative && x.toFloat == x.toFloat) ++ (Number.real x.toFloat.abs).text))
    else none

/-- A format with its arguments put in, the last part first. -/
def formatParts (toText : Value → Octets) (number : Value → Number) (all : List Value) :
    (steps : Nat) → Octets → List Value → List Octets → List Octets
  | 0, _, _, back => back
  | _, [], _, back => back
  | n + 1, '%' :: '%' :: r, args, back => formatParts toText number all n r args (['%'] :: back)
  | n + 1, '%' :: r, args, back =>
    let place := r.takeWhile Char.isDigit
    let (chosen, t) : Option Nat × Octets := match r.drop place.length with
      | '$' :: t => if place = [] then (none, r) else (some (Real.natOf place), t)
      | _ => (none, r)
    let flags := t.takeWhile fun c => "-+ #0".toList.contains c
    let (width, t, args) := countIn (t.drop flags.length) args number
    let flags := if width.any (· < 0) then '-' :: flags else flags
    let (precision, t, args) : Option Nat × Octets × List Value := match t with
      | '.' :: t =>
        let (p, t, args) := countIn t args number
        let p := p.getD 0
        (if p < 0 then none else some p.toNat, t, args)
      | t => (none, t, args)
    let t := t.dropWhile fun c => "hlqLVzt".toList.contains c
    let isVersion := t.head? = some 'v' ∧ (t.drop 1).head? = some 'd'
    let t := if isVersion then t.drop 1 else t
    match t with
    | [] => ('%' :: r) :: back
    | c :: rest =>
      let v : Value := match chosen with
        | some k => all.getD (k - 1) .undef
        | none => args.headD .undef
      let l : Format.Layout := ⟨flags, (width.map Int.natAbs).getD 0, precision⟩
      match converted? l (if isVersion then 'v' else c) toText number v with
      | some o => formatParts toText number all n rest (if chosen.isSome then args else args.drop 1) (o :: back)
      | none =>
        let shown := ('%' :: r).take (r.length + 1 - rest.length)
        formatParts toText number all n rest args (shown :: back)
  | n + 1, t, args, back =>
    let run := t.takeWhile (· != '%')
    formatParts toText number all n (t.drop run.length) args (run :: back)

/-- A format with its arguments put in. -/
def formatted (toText : Value → Octets) (number : Value → Number) (format : Octets) (args : List Value) : Octets :=
  (formatParts toText number args (format.length + 1) format args []).reverse.flatten

end KarelBuild.Shell.Scripts
