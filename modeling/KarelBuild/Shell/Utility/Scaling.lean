import KarelBuild.Shell.Real
import KarelBuild.Shell.Utility.Lines

/-!
# Numbers with units

`numfmt` reads numbers that may have a letter for a power of 1000 or 1024 behind them and writes them with or
without such letters. Numbers are fractions, so that nothing is lost between reading and rounding.
-/

namespace KarelBuild.Shell.Utility

open ShellM

namespace Scaling

/-- A fraction. -/
structure Amount where
  numerator : Int
  denominator : Nat

namespace Amount

def times (a : Amount) (n : Nat) : Amount := { a with numerator := a.numerator * n }

def dividedBy (a : Amount) (n : Nat) : Amount := { a with denominator := a.denominator * n }

def isBelow (a : Amount) (n : Nat) : Bool := a.numerator.natAbs < n * a.denominator

def isZero (a : Amount) : Bool := a.numerator == 0

end Amount

/-! ## Letters for powers -/

inductive Scale where
  | plain
  | auto
  | thousands
  | binary
  | binaryMarked
  deriving DecidableEq

def Scale.base : Scale → Nat
  | .binary => 1024
  | .binaryMarked => 1024
  | _ => 1000

def powerLetters : Octets := "KMGTPEZY".toList

/-- How often a number can be divided until it is below the base, and what is left. -/
def Amount.scaled (base : Nat) (a : Amount) : (steps : Nat) → Amount × Nat
  | 0 => (a, 0)
  | n + 1 =>
    if a.isBelow base then (a, 0)
    else
      let (rest, k) := Amount.scaled base (a.dividedBy base) n
      (rest, k + 1)

/-! ## Rounding -/

inductive Rounding where
  | up
  | down
  | away
  | toZero
  | nearest

/-- A fraction rounded to a whole number. -/
def Rounding.apply (r : Rounding) (a : Amount) : Int :=
  let floor := Int.fdiv a.numerator a.denominator
  let ceiling := -(Int.fdiv (-a.numerator) a.denominator)
  match r with
  | .up => ceiling
  | .down => floor
  | .away => if a.numerator < 0 then floor else ceiling
  | .toZero => if a.numerator < 0 then ceiling else floor
  | .nearest =>
    let half := (2 * a.numerator.natAbs + a.denominator) / (2 * a.denominator)
    if a.numerator < 0 then -(half : Int) else half

/-- A fraction rounded to so many places. -/
def Rounding.toPlaces (r : Rounding) (places : Nat) (a : Amount) : Amount :=
  ⟨r.apply (a.times (Nat.pow 10 places)), Nat.pow 10 places⟩

/-- The text of a number with so many places; a half goes to the even neighbour. -/
def Amount.fixedText (a : Amount) (places : Nat) : Octets :=
  (if a.numerator < 0 then ['-'] else []) ++
    Real.pointed places false (Real.roundDiv (a.numerator.natAbs * Nat.pow 10 places) a.denominator)

/-- The text of a number with six digits. -/
def Amount.shortText (a : Amount) : Octets :=
  let (q, e) := Real.digitsOf 5 a.numerator.natAbs a.denominator
  (if a.numerator < 0 then ['-'] else []) ++
    if e < -4 ∨ 6 ≤ e then Real.dropZeros (Real.pointed 5 false q) ++ Real.exponentText 'e' e
    else Real.dropZeros (Real.pointed (5 - e).toNat false
      (Real.roundDiv (a.numerator.natAbs * Nat.pow 10 (5 - e).toNat) a.denominator))

/-! ## Reading -/

/-- What is wrong with a number. -/
inductive NumberFault where
  | tooLarge
  | noNumber
  | letterNotAllowed
  | unknownLetter
  | markMissing
  | more (rest : Octets)

def NumberFault.message (text : Octets) : NumberFault → Octets
  | .tooLarge => "value too large to be converted: ".toList ++ quoted text
  | .noNumber => "invalid number: ".toList ++ quoted text
  | .letterNotAllowed => "rejecting suffix in input: ".toList ++ quoted text ++ " (consider using --from)".toList
  | .unknownLetter => "invalid suffix in input: ".toList ++ quoted text
  | .markMissing => "missing 'i' suffix in input: ".toList ++ quoted text ++ " (e.g Ki/Mi/Gi)".toList
  | .more rest => "invalid suffix in input ".toList ++ quoted text ++ ": ".toList ++ quoted rest

/-- The most digits that a number may have. -/
def mostDigits : Nat := 27

/-- Digits in front of a text, if there are not too many, and what follows. -/
def digits? (o : Octets) : Except NumberFault (Octets × Octets) :=
  let ds := o.takeWhile Char.isDigit
  if mostDigits < (ds.dropWhile (· == '0')).length then .error .tooLarge
  else .ok (ds, o.drop ds.length)

/-- The number in front of a text, how many places it has, and what follows. -/
def number? (o : Octets) : Except NumberFault (Amount × Nat × Octets) := do
  let isNegative : Bool := o.head? == some '-'
  let body := if isNegative then o.drop 1 else o
  let (whole, rest) ← digits? body
  let sign : Int := if isNegative then -1 else 1
  if whole = [] ∧ rest.head? ≠ some '.' then .error .noNumber
  else if rest.head? = some '.' then
    let (part, behind) ← digits? (rest.drop 1)
    if part = [] ∧ behind.head? ≠ some '.' then .error .noNumber
    else
      let scale := Nat.pow 10 part.length
      .ok (⟨sign * (digitsValue whole * scale + digitsValue part : Nat), scale⟩, part.length, behind)
  else .ok (⟨sign * (digitsValue whole : Nat), 1⟩, 0, rest)

/-- The number that a text stands for, with a letter behind it, and how many places it has. -/
def scaledNumber? (scale : Scale) (o : Octets) : Except NumberFault (Amount × Nat) := do
  let (a, places, rest) ← number? o
  let (base, power, places, rest) ←
    if rest = [] then .ok (scale.base, 0, places, [])
    else
      let rest := rest.dropWhile fun c => c == ' ' || c == '\t'
      let letter := rest.headD ' '
      if !powerLetters.contains letter then .error NumberFault.unknownLetter
      else if scale = .plain then .error .letterNotAllowed
      else
        let power := powerLetters.idxOf letter + 1
        let rest := rest.drop 1
        if scale = .auto ∧ rest.head? = some 'i' then .ok (1024, power, 0, rest.drop 1)
        else .ok (scale.base, power, 0, rest)
  let rest ←
    if scale = .binaryMarked then
      if rest.head? = some 'i' then .ok (rest.drop 1) else .error NumberFault.markMissing
    else .ok rest
  if rest ≠ [] then .error (.more rest) else .ok (a.times (Nat.pow base power), places)

/-! ## Layout -/

/-- What happens with what is no number. -/
inductive OnFault where
  | ends
  | fails
  | warns
  | ignores
  deriving DecidableEq

structure NumberStyle where
  source : Scale := .plain
  result : Scale := .plain
  sourceUnit : Nat := 1
  resultUnit : Nat := 1
  rounding : Rounding := .away
  places : Option Nat := none
  width : Nat := 0
  leftAligned : Bool := false
  zeroWidth : Nat := 0
  fitsField : Bool := false
  before : Octets := []
  behind : Octets := []
  suffix : Octets := []
  delimiter : Option Char := none
  fields : Ranges := [(1, some 1)]
  onFault : OnFault := .ends
  debugs : Bool := false

/-- The text of a number. -/
def NumberStyle.text (s : NumberStyle) (a : Amount) (places : Nat) : Octets :=
  let padded (o : Octets) : Octets :=
    let (sign, digits) := if o.head? = some '-' then (['-'], o.drop 1) else ([], o)
    sign ++ List.replicate (s.zeroWidth - o.length) '0' ++ digits
  if s.result = .plain then padded ((s.rounding.toPlaces places a).fixedText places)
  else
    let base := s.result.base
    let (rest, power) := a.scaled base 100
    let kept := match s.places with
      | some k => min (power * 3) k
      | none => if rest.isBelow 10 then 1 else 0
    let rest := s.rounding.toPlaces kept rest
    let (rest, power) := if rest.isBelow base then (rest, power) else (rest.dividedBy base, power + 1)
    let shown := match s.places with
      | some k => k
      | none => if !rest.isZero && rest.isBelow 10 && 0 < power then 1 else 0
    let letter := if power = 0 then [] else [powerLetters.getD (power - 1) '?']
    padded (rest.fixedText shown) ++ letter ++
      if s.result = .binaryMarked ∧ 0 < power then ['i'] else []

/-- The most digits that are written without a letter, places included. -/
def mostPlainDigits : Nat := 18

/-- Why a number cannot be written. -/
def NumberStyle.excess? (s : NumberStyle) (a : Amount) (places : Nat) : Option Octets :=
  let (_, size) := a.scaled 10 100
  if s.result = .plain ∧ mostPlainDigits < size + places then
    if places = 0 then
      some ("value too large to be printed: '".toList ++ a.shortText ++ "' (consider using --to)".toList)
    else
      some ("value/precision too large to be printed: '".toList ++ a.shortText ++ '/' :: Text.ofNat places ++
        "' (consider using --to)".toList)
  else if mostDigits - 1 < size then
    some ("value too large to be printed: '".toList ++ a.shortText ++ "' (cannot handle values > 999Y)".toList)
  else none

/-- Complain of a number, which ends everything unless it shall not. -/
def complainOf (s : NumberStyle) (message : Octets) : ShellM Unit := do
  if s.onFault ≠ .ignores then
    grumble message
    if s.onFault = .ends then exit 2

/-- Write a field that is a number. Tells whether it is one. -/
def putNumber (s : NumberStyle) (field : Nat) (o : Octets) : ShellM Bool := do
  let trimmed := if s.suffix ≠ [] ∧ s.suffix.length < o.length ∧ s.suffix.isSuffixOf o then
    o.take (o.length - s.suffix.length) else o
  let blanks := trimmed.takeWhile fun c => c == ' ' || c == '\t'
  let body := trimmed.drop blanks.length
  let width := if s.fitsField then (if blanks ≠ [] ∨ 1 < field then trimmed.length else 0) else s.width
  match scaledNumber? s.source body with
  | .error f =>
    complainOf s (f.message body)
    emit trimmed
    return false
  | .ok (a, places) =>
    let a := (a.times s.sourceUnit).dividedBy s.resultUnit
    let places := s.places.getD places
    match s.excess? a places with
    | some message =>
      complainOf s message
      emit trimmed
      return false
    | none =>
      let t := s.text a places ++ s.suffix
      emit (s.before ++ (if s.leftAligned then padRight width t else padLeft width t) ++ s.behind)
      return true

/-- The fields of a line. Without a delimiter, blanks in front belong to a field. -/
def fieldsOf (s : NumberStyle) (line : Octets) : List Octets :=
  match s.delimiter with
  | some d => Text.split d line
  | none => go (line.length + 1) line
where
  go : (steps : Nat) → Octets → List Octets
    | 0, _ => []
    | n + 1, o =>
      let isBlank (c : Char) : Bool := c == ' ' || c == '\t' || c == '\n'
      let blanks := o.takeWhile isBlank
      let body := (o.drop blanks.length).takeWhile fun c => !isBlank c
      match o.drop (blanks.length + body.length) with
      | [] => [blanks ++ body]
      | _ :: rest => (blanks ++ body) :: go n rest

/-- Write a line. Tells whether all that should be numbers are numbers. -/
def putLine (s : NumberStyle) (line : Octets) : ShellM Bool := do
  let fields := fieldsOf s line
  let mut fine := true
  for (field, i) in fields.zipIdx do
    if 0 < i then emit [s.delimiter.getD ' ']
    if s.fields.contains (i + 1) then
      if !(← putNumber s (i + 1) field) then fine := false
    else emit field
  return fine

/-! ## The utility -/

/-- Take the layout from a format. -/
def withFormat (s : NumberStyle) (f : Octets) : ShellM NumberStyle := do
  let (count, rest) ← lead 0 (f.length + 1) f
  let marks := rest.takeWhile fun c => c == ' ' || c == '\'' || c == '0'
  let rest := rest.drop marks.length
  let isNegative : Bool := rest.head? == some '-'
  let digits := (if isNegative then rest.drop 1 else rest).takeWhile Char.isDigit
  let rest := if digits = [] then rest else rest.drop (digits.length + if isNegative then 1 else 0)
  let pad := digitsValue digits
  let s := if pad = 0 then s
    else if isNegative then { s with leftAligned := true, width := pad }
    else if marks.contains '0' then { s with zeroWidth := pad }
    else { s with width := pad }
  if rest = [] then stop 1 ("format ".toList ++ quoted f ++ " ends in %".toList)
  let (places, rest) ←
    if rest.head? = some '.' then
      let r := rest.drop 1
      let ds := r.takeWhile Char.isDigit
      if r.head?.any fun c => c == ' ' || c == '\t' || c == '+' || c == '-' then
        stop 1 ("invalid precision in format ".toList ++ quoted f)
      else pure (some (digitsValue ds), r.drop ds.length)
    else pure (none, rest)
  match rest with
  | 'f' :: behind =>
    if directives (behind.length + 1) behind then
      stop 1 ("format ".toList ++ quoted f ++ " has too many % directives".toList)
    return { s with places, before := f.take count, behind }
  | _ =>
    stop 1 ("invalid format ".toList ++ quoted f ++ ", directive must be %[0]['][-][N][.][N]f".toList)
where
  /-- How many characters stand in front of the directive, and what is behind its percent sign. -/
  lead (count : Nat) : (steps : Nat) → Octets → ShellM (Nat × Octets)
    | 0, _ => return (count, [])
    | n + 1, o =>
      match o with
      | [] => stop 1 ("format ".toList ++ quoted f ++ " has no % directive".toList)
      | '%' :: '%' :: r => lead (count + 1) n r
      | '%' :: r => return (count, r)
      | _ :: r => lead (count + 1) n r
  directives : (steps : Nat) → Octets → Bool
    | 0, _ => false
    | n + 1, o =>
      match o with
      | [] => false
      | '%' :: '%' :: r => directives n r
      | '%' :: _ => true
      | _ :: r => directives n r

/-- The number of a unit: a letter stands for a power of 1000, with `i` behind it for one of 1024. -/
def readUnit (value : Option Octets) : ShellM Nat := do
  match value with
  | none => return 1
  | some o =>
    let ds := o.takeWhile Char.isDigit
    let n := if ds = [] then 1 else digitsValue ds
    let factor : Option Nat := match o.drop ds.length with
      | [] => if ds = [] then none else some 1
      | [c] => if powerLetters.contains c then some (Nat.pow 1000 (powerLetters.idxOf c + 1)) else none
      | [c, 'i'] => if powerLetters.contains c then some (Nat.pow 1024 (powerLetters.idxOf c + 1)) else none
      | _ => none
    match factor.map (· * n) with
    | some k => if k = 0 ∨ 0xffffffffffffffff < k then wrong o else return k
    | none => wrong o
where
  wrong (o : Octets) : ShellM Nat := stop 1 ("invalid unit size: ".toList ++ quoted o)

def numberForms : List OptionForm :=
  forms [('z', "zero-terminated"), ('\x01', "grouping"), ('\x02', "debug"), ('\x03', "dev-debug")]
    [('d', "delimiter"), ('\x04', "from"), ('\x05', "from-unit"), ('\x06', "to"), ('\x07', "to-unit"),
      ('\x08', "round"), ('\x0b', "padding"), ('\x0e', "suffix"), ('\x0f', "field"), ('\x10', "format"),
      ('\x11', "invalid")] ++
    [⟨'\x12', "header", .maybe⟩]

def readStyle (g : Given) : ShellM NumberStyle := do
  let scales : List (String × Scale) :=
    [("none", .plain), ("auto", .auto), ("si", .thousands), ("iec", .binary), ("iec-i", .binaryMarked)]
  let word {α : Type} (c : Char) (option : String) (table : List (String × α)) : ShellM (Option α) := do
    match g.value? c with
    | none => return none
    | some w => return some (← wordMeaning 1 option table w)
  let source ← word '\x04' "from" scales
  let sourceUnit ← readUnit (g.value? '\x05')
  let result ← word '\x06' "to" (scales.filter fun (_, s) => s ≠ .auto)
  let resultUnit ← readUnit (g.value? '\x07')
  let rounding ← word '\x08' "round" [("up", Rounding.up), ("down", .down), ("from-zero", .away),
    ("towards-zero", .toZero), ("nearest", .nearest)]
  let padding ← match g.value? '\x0b' with
    | none => pure (0 : Int)
    | some v =>
      match signedNumber? v with
      | none => stop 1 ("invalid padding value ".toList ++ quoted v)
      | some n => if n = 0 then stop 1 ("invalid padding value ".toList ++ quoted v) else pure n
  let lists := g.options.filter (·.1 == '\x0f')
  if 1 < lists.length then stop 1 "multiple field specifications".toList
  let fields ← match lists with
    | (_, ['-']) :: _ => pure [(1, none)]
    | (_, list) :: _ => rangesOf "field" list
    | [] => pure [(1, some 1)]
  let delimiter ← match g.value? 'd' with
    | none => pure none
    | some [c] => pure (some c)
    | some [] => pure (some '\x00')
    | some _ => stop 1 "the delimiter must be a single character".toList
  let onFault ← word '\x11' "invalid" [("abort", OnFault.ends), ("fail", .fails), ("warn", .warns),
    ("ignore", .ignores)]
  if (g.value? '\x10').isSome ∧ g.has '\x01' then stop 1 "--grouping cannot be combined with --format".toList
  let s : NumberStyle := {
    source := source.getD .plain, result := result.getD .plain, sourceUnit, resultUnit
    rounding := rounding.getD .away, width := padding.natAbs, leftAligned := padding < 0, delimiter, fields
    onFault := onFault.getD .ends, suffix := (g.value? '\x0e').getD [], debugs := g.has '\x02' }
  if s.debugs ∧ s.source = .plain ∧ s.result = .plain ∧ !g.has '\x01' ∧ s.width = 0 ∧ (g.value? '\x10').isNone then
    grumble "no conversion option specified".toList
  let s ← match g.value? '\x10' with
    | some f => withFormat s f
    | none => pure s
  if g.has '\x01' then
    if s.result ≠ .plain then stop 1 "grouping cannot be combined with --to".toList
    if s.debugs then grumble "grouping has no effect in this locale".toList
  return { s with fitsField := s.width = 0 && delimiter.isNone }

def numfmt : Utility := fun _ args => do
  let g ← given numberForms args
  let headers ← match g.value? '\x12' with
    | none => pure 0
    | some [] => pure 1
    | some v =>
      if isNumber v ∧ 0 < digitsValue v then pure (digitsValue v)
      else stop 1 ("invalid header value ".toList ++ quoted v)
  let s ← readStyle g
  let stopChar := if g.has 'z' then '\x00' else '\n'
  let mut fine := true
  if g.operands ≠ [] then
    if s.debugs ∧ 0 < headers then grumble "--header ignored with command-line input".toList
    for o in g.operands do
      if !(← putLine s o) then fine := false
      emit [stopChar]
  else
    match ← readOperand ['-'] with
    | .error e => grumble ("error reading input: ".toList ++ e.wording.toList)
    | .ok o =>
      let (lines, rest) := wholeLines stopChar o
      for ((line, ended), i) in (lines ++ if rest = [] then [] else [(rest, false)]).zipIdx do
        if i < headers then emit line
        else if !(← putLine s line) then fine := false
        if ended then emit [stopChar]
  if s.debugs ∧ !fine then grumble "failed to convert some of the input numbers".toList
  return if !fine ∧ s.onFault ≠ .warns ∧ s.onFault ≠ .ignores then 2 else 0

end Scaling

end KarelBuild.Shell.Utility
