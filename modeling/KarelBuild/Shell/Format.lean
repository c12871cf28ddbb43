import KarelBuild.Shell.Quoting
import KarelBuild.Shell.Utility.Names
import KarelBuild.Shell.Calendar

/-!
# Formatted output

Escapes in text, and formats in which conversions stand for arguments. A format is used again as
long as it takes arguments and some are left.
-/

namespace KarelBuild.Shell

/-! ## Escapes -/

/-- Who reads a format: the plain shell, the rich one, or the program of that name. -/
inductive FormatStyle where
  | plain
  | rich
  | program
  deriving DecidableEq, Repr

/-- What a backslash stands for with the text behind it, and what follows; an octal number has up to
three digits. -/
def escape (style : FormatStyle) (t : Text) : Octets × Text :=
  match t with
  | [] => (['\\'], [])
  | c :: r =>
    if isOctalDigit c then
      let ds := (t.take 3).takeWhile isOctalDigit
      ([byteOf 8 ds], t.drop ds.length)
    else if c = 'e' then (['\x1b'], r)
    else if style ≠ .plain ∧ c = '"' then (['"'], r)
    else if style ≠ .plain ∧ c = 'x' then
      let ds := (r.take 2).takeWhile isHexDigit
      if ds = [] then (['\\', c], r) else ([byteOf 16 ds], r.drop ds.length)
    else if style ≠ .plain ∧ (c = 'u' ∨ c = 'U') then
      let ds := (r.take (if c = 'u' then 4 else 8)).takeWhile isHexDigit
      if ds = [] then (['\\', c], r)
      else (codePointText (ds.foldl (fun n d => n * 16 + hexValue d) 0), r.drop ds.length)
    else match escapeLetters.lookup c with
      | some d => ([d], r)
      | none => (['\\', c], r)

/-- Text with its escapes undone, and whether `\c` ended it. A zero may stand before the digits of an
octal number. -/
def unescapeFrom (style : FormatStyle) : (steps : Nat) → Text → Octets × Bool
  | 0, t => (t, false)
  | _, [] => ([], false)
  | n + 1, '\\' :: r =>
    match r with
    | 'c' :: _ => ([], true)
    | '0' :: d :: _ =>
      let (o, rest) := escape style (if isOctalDigit d then r.drop 1 else r)
      let (more, ended) := unescapeFrom style n rest
      (o ++ more, ended)
    | _ =>
      let (o, rest) := escape style r
      let (more, ended) := unescapeFrom style n rest
      (o ++ more, ended)
  | n + 1, c :: r =>
    let run := (c :: r).takeWhile (· != '\\')
    let (more, ended) := unescapeFrom style n ((c :: r).drop run.length)
    (run ++ more, ended)

def unescape (style : FormatStyle) (t : Text) : Octets × Bool := unescapeFrom style (t.length + 1) t

namespace Format

/-! ## Conversions -/

/-- How a conversion is laid out. -/
structure Layout where
  flags : Text := []
  width : Nat := 0
  precision : Option Nat := none
  deriving DecidableEq, Repr

namespace Layout

def has (l : Layout) (c : Char) : Bool := l.flags.contains c

def pad (l : Layout) (t : Octets) : Octets :=
  let missing := List.replicate (l.width - t.length) ' '
  if l.has '-' then t ++ missing else missing ++ t

def sign (l : Layout) (negative : Bool) : Text :=
  if negative then ['-'] else if l.has '+' then ['+'] else if l.has ' ' then [' '] else []

/-- A number behind its sign; zeros fill the width when they are asked for. -/
def signed (l : Layout) (zeros : Bool) (sign digits : Text) : Octets :=
  if l.has '0' ∧ !l.has '-' ∧ zeros then
    sign ++ List.replicate (l.width - sign.length - digits.length) '0' ++ digits
  else l.pad (sign ++ digits)

def whole (l : Layout) (sign digits : Text) : Octets :=
  let digits := if l.precision = some 0 ∧ digits = ['0'] then [] else digits
  let digits := List.replicate (l.precision.getD 1 - digits.length) '0' ++ digits
  l.signed l.precision.isNone sign digits

end Layout

/-- What was wrong with an argument. -/
inductive Fault where
  | noNumber (arg : Octets)
  | junk (arg : Octets)
  | range (arg : Octets)
  | directive (t : Text)
  | noConversion
  | noTime (c : Char)
  | noHexadecimal
  deriving DecidableEq, Repr

/-- A whole number in front of an argument, what follows it, and whether it is there. -/
def wholeOf (arg : Octets) : Int × Octets × Bool :=
  let t := arg.dropWhile fun c => c == ' ' || ('\t' ≤ c && c ≤ '\r')
  let (negative, r) := match t with
    | '-' :: r => (true, r)
    | '+' :: r => (false, r)
    | r => (false, r)
  let (base, ds, rest) := Arithmetic.digits r
  if ds = [] then (0, arg, false)
  else
    let n : Int := Arithmetic.valueIn base ds
    (if negative then -n else n, rest, true)

/-- The number behind a quote: that of the character. -/
def quotedChar? : Octets → Option Nat
  | '"' :: c :: _ => some c.toNat
  | '\'' :: c :: _ => some c.toNat
  | ['"'] => some 0
  | ['\''] => some 0
  | _ => none

def faultOf (arg rest : Octets) (found outOfRange : Bool) : List Fault :=
  if arg = [] then []
  else if !found then [.noNumber arg]
  else if rest ≠ [] then [.junk arg]
  else if outOfRange then [.range arg]
  else []

/-- The whole number that an argument spells, within the bounds of 64 bits. -/
def integer (isSigned : Bool) (arg : Octets) : Int × List Fault :=
  match quotedChar? arg with
  | some n => (n, [])
  | none =>
    let (n, rest, found) := wholeOf arg
    let top : Int := Arithmetic.range
    let bounded :=
      if isSigned then max (-Arithmetic.largest - 1) (min n Arithmetic.largest)
      else if n < 0 then (if n < -top then top - 1 else n) else min n (top - 1)
    (bounded, faultOf arg rest found (bounded ≠ n))

/-- How many binary digits the mantissa of a number has. -/
def mantissaBits : FormatStyle → Nat
  | .plain => 53
  | _ => 64

def real (style : FormatStyle) (arg : Octets) : Real × List Fault :=
  match quotedChar? arg with
  | some n => (Real.ofNat n, [])
  | none =>
    match Real.read? (mantissaBits style) arg with
    | some (x, rest) => (x, faultOf arg rest true false)
    | none => (Real.ofNat 0, faultOf arg arg false false)

/-- How far a format has got. -/
structure Progress where
  /-- The time now, and the one that the shell was started at. -/
  now : Int := 0
  start : Int := 0
  text : List Octets := []
  args : List Octets
  /-- How many arguments have been taken. -/
  taken : Nat := 0
  faults : List Fault := []
  ended : Bool := false

namespace Progress

def put (g : Progress) (o : Octets) : Progress := { g with text := o :: g.text }

def next (g : Progress) : Octets × Progress := (g.args.headD [], { g with args := g.args.drop 1, taken := g.taken + 1 })

def note (g : Progress) (fs : List Fault) : Progress := { g with faults := g.faults ++ fs }

end Progress

/-- A number in the format, or the next argument in its place. -/
def number (t : Text) (g : Progress) : Option Int × Text × Progress :=
  match t with
  | '*' :: r =>
    let (arg, g) := g.next
    let (n, fs) := integer true arg
    (some n, r, g.note fs)
  | _ =>
    let ds := t.takeWhile Char.isDigit
    (if ds = [] then none else some (Real.natOf ds), t.drop ds.length, g)

/-- The layout in front of a conversion. -/
def layout (t : Text) (g : Progress) : Layout × Text × Progress :=
  let flags := t.takeWhile fun c => "#-+ 0".toList.contains c
  let (width, rest, g) := number (t.drop flags.length) g
  let flags := if width.any (· < 0) then '-' :: flags else flags
  let width := (width.map Int.natAbs).getD 0
  match rest with
  | '.' :: r =>
    let (precision, rest, g) := number r g
    let precision := match precision with
      | none => some 0
      | some n => if n < 0 then none else some n.toNat
    (⟨flags, width, precision⟩, rest, g)
  | _ => (⟨flags, width, none⟩, rest, g)

def inBase (l : Layout) (base : Nat) (lead : Text) (upper : Bool) (n : Int) : Octets :=
  let ds := Nat.toDigits base (n % Arithmetic.range).toNat
  let ds := if upper then ds.map Char.toUpper else ds
  l.whole (if l.has '#' ∧ n ≠ 0 then lead else []) ds

/-- Write an argument by its conversion; `none` if there is no such conversion. -/
def convert? (style : FormatStyle) (l : Layout) (c : Char) (g : Progress) : Option Progress :=
  let (arg, h) := g.next
  let cut (o : Octets) : Octets := match l.precision with
    | some n => o.take n
    | none => o
  let unsigned (base : Nat) (lead : Text) (upper : Bool) : Progress :=
    let (n, fs) := integer false arg
    (h.put (inBase l base lead upper n)).note fs
  if c = 's' then some (h.put (l.pad (cut arg)))
  else if c = 'b' then
    let (o, ended) := unescape style arg
    some { h.put (l.pad (cut o)) with ended }
  else if c = 'c' then
    some (h.put (if arg = [] then (if style = .rich then [] else ['\x00']) else l.pad (arg.take 1)))
  else if c = 'q' ∧ style = .rich then some (h.put (l.pad (cut (Quoting.backslashed arg))))
  else if c = 'Q' ∧ style = .rich then some (h.put (l.pad (Quoting.backslashed (cut arg))))
  else if c = 'q' ∧ style = .program then (if l.precision.isSome then none else some (h.put (l.pad (Utility.shellWord arg))))
  else if c = 'd' ∨ c = 'i' then
    let (n, fs) := integer true arg
    some ((h.put (l.whole (l.sign (n < 0)) (Text.ofNat n.natAbs))).note fs)
  else if c = 'u' then some (unsigned 10 [] false)
  else if c = 'o' then some (unsigned 8 ['0'] false)
  else if c = 'x' then some (unsigned 16 ['0', 'x'] false)
  else if c = 'X' then some (unsigned 16 ['0', 'X'] true)
  else if c = 'a' ∨ c = 'A' then
    let (x, fs) := real style arg
    let digits := Real.hexadecimal (mantissaBits style) l.precision (l.has '#') x.magnitude
    let digits := if c = 'A' then digits.map Char.toUpper else digits
    let isFinite := digits.head? == some '0'
    let lead := if isFinite then l.sign x.negative ++ digits.take 2 else l.sign x.negative
    some ((h.put (l.signed isFinite lead (if isFinite then digits.drop 2 else digits))).note fs)
  else if "eEfFgG".toList.contains c then
    let (x, fs) := real style arg
    let digits := Real.format c l.precision (l.has '#') x.magnitude
    let isFinite := match x.magnitude with
      | .finite _ _ => true
      | _ => false
    some ((h.put (l.signed isFinite (l.sign x.negative) digits)).note fs)
  else none

/-- Write a time by a form in parentheses; without an argument it is now. -/
def convertTime (l : Layout) (form : Text) (g : Progress) : Progress :=
  let (micros, fs, g) : Int × List Fault × Progress := match g.args with
    | [] => (g.now, [], g)
    | arg :: rest =>
      let (n, fs) := integer true arg
      (if n = -1 then g.now else if n = -2 then g.start else n * 1000000, fs, { g with args := rest, taken := g.taken + 1 })
  let form := if form = [] then "%X".toList else form
  let o := formatDate micros form
  let o := match l.precision with
    | some n => o.take n
    | none => o
  (g.put (l.pad o)).note fs

/-- The form of a time in parentheses, and what follows its letter. -/
def timeForm? : (depth : Nat) → Text → Option (Text × Text)
  | _, [] => none
  | 0, ')' :: 'T' :: r => some ([], r)
  | 0, ')' :: _ => none
  | d, c :: r =>
    let d := if c = '(' then d + 1 else if c = ')' then d - 1 else d
    (timeForm? d r).map fun (form, rest) => (c :: form, rest)

/-- Letters of size that a conversion may have. -/
def dropSizes (style : FormatStyle) (t : Text) : Text :=
  if style = .plain then t else t.dropWhile fun c => "hlLjzt".toList.contains c

/-- One pass through a format. -/
def once (style : FormatStyle) : (steps : Nat) → Text → Progress → Progress
  | 0, _, g => g
  | _, [], g => g
  | n + 1, c :: t, g =>
    if c = '\\' then
      let isBare (size : Nat) (r : Text) : Bool := (r.take size).length < size || !(r.take size).all isHexDigit
      match style, t with
      | .program, 'c' :: _ => { g with ended := true }
      | .program, d :: r =>
        let size := if d = 'x' then 1 else if d = 'u' then 4 else if d = 'U' then 8 else 0
        if isBare size r then { g.note [.noHexadecimal] with ended := true }
        else
          let (o, rest) := escape style t
          once style n rest (g.put o)
      | _, _ =>
        let (o, rest) := escape style t
        once style n rest (g.put o)
    else if c = '%' then
      match t with
      | '%' :: t => once style n t (g.put ['%'])
      | _ =>
        let (l, rest, h) := layout t g
        match dropSizes style rest with
        | [] => { h.note [.noConversion] with ended := true }
        | conversion :: t' =>
          if style = .rich ∧ conversion = '(' then
            match timeForm? 0 t' with
            | some (form, rest) => once style n rest (convertTime l form h)
            | none => once style n t' ((h.note [.noTime (t'.getLastD ' ')]).put "%(".toList)
          else
          match convert? style l conversion h with
          | some k => if k.ended then k else once style n t' k
          | none =>
            let directive := (c :: t).take (t.length - t'.length + 1)
            { h.note [.directive directive] with ended := true }
    else
      let run := (c :: t).takeWhile fun d => d != '\\' && d != '%'
      once style n ((c :: t).drop run.length) (g.put run)

def passes (style : FormatStyle) (format : Text) : (steps : Nat) → Progress → Progress
  | 0, g => g
  | n + 1, g =>
    let h := once style (format.length + 1) format g
    if h.ended || h.args = [] || h.taken == g.taken then h
    else passes style format n h

def applyAt (now start : Int) (style : FormatStyle) (format : Text) (args : List Octets) : Progress :=
  passes style format (args.length + 1) { args, now, start }

def apply (style : FormatStyle) (format : Text) (args : List Octets) : Progress := applyAt 0 0 style format args

def Progress.output (g : Progress) : Octets := g.text.reverse.flatten

end Format

end KarelBuild.Shell
