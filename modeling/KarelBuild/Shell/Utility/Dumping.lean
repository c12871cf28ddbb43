import KarelBuild.Shell.Real
import KarelBuild.Shell.Utility.Streams

/-!
# Bytes as numbers in columns

`od` shows bytes in rows, each behind its address: as numbers of some size in some base, as real numbers, or as
characters. Several forms of one row stand below each other, in columns that are as wide as the widest form needs
them. A row that repeats the one before is shown as a star.
-/

namespace KarelBuild.Shell.Utility

open ShellM

def digitsIn (base width n : Nat) : Octets :=
  let ds := Nat.toDigits base n
  List.replicate (width - ds.length) '0' ++ ds

/-- The number that bytes make up, the lowest one first. -/
def wordOf (bytes : List Nat) : Nat := bytes.foldr (fun b n => n * 256 + b) 0

def signedWord (bytes : List Nat) : Int :=
  let n := wordOf bytes
  let bound := 1 <<< (8 * bytes.length)
  if 2 * n < bound then n else (n : Int) - bound

namespace Dumping

/-! ## Characters -/

def charText (n : Nat) : Octets :=
  match [(0, "\\0"), (7, "\\a"), (8, "\\b"), (9, "\\t"), (10, "\\n"), (11, "\\v"), (12, "\\f"),
      (13, "\\r")].lookup n with
  | some t => t.toList
  | none => if 32 ≤ n ∧ n < 127 then [Char.ofNat n] else digitsIn 8 3 n

/-- The names of the bytes that are not shown as themselves. -/
def byteNames : List String :=
  ["nul", "soh", "stx", "etx", "eot", "enq", "ack", "bel", "bs", "ht", "nl", "vt", "ff", "cr", "so", "si", "dle",
    "dc1", "dc2", "dc3", "dc4", "nak", "syn", "etb", "can", "em", "sub", "esc", "fs", "gs", "rs", "us", "sp"]

def nameText (n : Nat) : Octets :=
  let n := n % 128
  if n = 127 then "del".toList
  else match byteNames[n]? with
    | some t => t.toList
    | none => [Char.ofNat n]

/-! ## Real numbers -/

/-- How a real number is kept: the digits of its mantissa, those of its exponent, whether the first digit of the
mantissa is kept too, and how many decimal digits it has at least and at most. -/
structure RealForm where
  mantissaBits : Nat
  exponentBits : Nat
  keepsFirst : Bool
  fewest : Nat
  most : Nat

namespace RealForm

def bias (f : RealForm) : Nat := (1 <<< (f.exponentBits - 1)) - 1

/-- The exponent of the last digit of the smallest numbers. -/
def leastExponent (f : RealForm) : Int := 2 - (f.bias : Int) - f.mantissaBits

def ofWord (f : RealForm) (n : Nat) : Real :=
  let size := if f.keepsFirst then f.mantissaBits else f.mantissaBits - 1
  let fraction := n % (1 <<< size)
  let e := n >>> size % (1 <<< f.exponentBits)
  let negative := n >>> (size + f.exponentBits) % 2 = 1
  let first := if f.keepsFirst then 0 else 1 <<< size
  if f.keepsFirst ∧ e ≠ 0 ∧ fraction >>> (size - 1) = 0 then ⟨negative, .undefined⟩
  else if e + 1 = 1 <<< f.exponentBits then
    ⟨negative, if fraction % (1 <<< (f.mantissaBits - 1)) = 0 then .infinite else .undefined⟩
  else if e = 0 then ⟨negative, .finite fraction f.leastExponent⟩
  else ⟨negative, .finite (first + fraction) (f.leastExponent + e - 1)⟩

/-- Whether two quotients of whole numbers and powers of two are the same. -/
def sameValue (m : Nat) (e : Int) (m' : Nat) (e' : Int) : Bool :=
  let least := min e e'
  m <<< (e - least).toNat == m' <<< (e' - least).toNat

/-- Whether a quotient is kept as a number. -/
def isKeptAs (f : RealForm) (n d m : Nat) (e : Int) : Bool :=
  match Real.ofRatio f.mantissaBits n d with
  | .finite m' e' =>
    if f.leastExponent ≤ e' then sameValue m e m' e'
    else sameValue m e (Real.roundDiv (n <<< f.leastExponent.natAbs) d) f.leastExponent
  | _ => false

/-- The text with the fewest digits that is kept as the number. -/
def magnitudeText (f : RealForm) (m : Nat) (e : Int) : Octets :=
  let (n, d) := Real.ratio m e
  let isSmall := Real.bitLength m < f.mantissaBits
  let first := if isSmall then 1 else f.fewest
  let fits (digits : Nat) : Bool :=
    let (q, e10) := Real.digitsOf (digits - 1) n d
    let scale := e10 - (digits - 1 : Nat)
    if scale < 0 then f.isKeptAs q (Real.pow10 scale.natAbs) m e
    else f.isKeptAs (q * Real.pow10 scale.natAbs) 1 m e
  let digits := ((List.range (f.most - first)).map (· + first)).find? fits
  Real.general (digits.getD f.most) false 'e' m e

def text (f : RealForm) (bytes : List Nat) : Octets :=
  let x := f.ofWord (wordOf bytes)
  (if x.negative then ['-'] else []) ++ match x.magnitude with
    | .infinite => "inf".toList
    | .undefined => "nan".toList
    | .finite 0 _ => ['0']
    | .finite m e => f.magnitudeText m e

end RealForm

/-! ## Forms -/

/-- How the bytes of a row are shown: how many make up an item, how wide it is, and its text; and whether the
characters of the row stand behind it. -/
structure Form where
  size : Nat
  width : Nat
  text : List Nat → Octets
  trailed : Bool := false

/-- A form of numbers by its letter and its size. -/
def numberForm? (kind : Char) (size : Nat) : Option Form :=
  let widthIn (widths : List Nat) : Nat := widths.getD (if size = 1 then 0 else if size = 2 then 1
    else if size = 4 then 2 else 3) 0
  if !([1, 2, 4, 8].contains size) then none
  else match kind with
    | 'd' => some { size, width := widthIn [4, 6, 11, 20], text := fun b => Text.ofInt (signedWord b) }
    | 'u' => some { size, width := widthIn [3, 5, 10, 20], text := fun b => Text.ofNat (wordOf b) }
    | 'o' =>
      let width := widthIn [3, 6, 11, 22]
      some { size, width, text := fun b => digitsIn 8 width (wordOf b) }
    | 'x' => some { size, width := 2 * size, text := fun b => digitsIn 16 (2 * size) (wordOf b) }
    | _ => none

def realForm? : (size : Nat) → Option Form
  | 4 => some { size := 4, width := 15, text := RealForm.text ⟨24, 8, false, 6, 9⟩ }
  | 8 => some { size := 8, width := 24, text := RealForm.text ⟨53, 11, false, 15, 17⟩ }
  | 16 => some { size := 16, width := 29, text := fun b => RealForm.text ⟨64, 15, true, 18, 21⟩ (b.take 10) }
  | _ => none

/-- The size that stands behind the letter of a form, and what follows it. -/
def sizeFrom (letters : List (Char × Nat)) (usual : Nat) (t : Octets) : Nat × Octets :=
  match t with
  | c :: r =>
    match letters.lookup c with
    | some n => (n, r)
    | none =>
      let ds := t.takeWhile Char.isDigit
      if ds = [] then (usual, t) else (digitsValue ds, t.drop ds.length)
  | [] => (usual, [])

/-- The forms that a text asks for, one behind the other. -/
def formsOf (whole : Octets) : (steps : Nat) → Octets → ShellM (List Form)
  | 0, _ => return []
  | _, [] => return []
  | n + 1, kind :: r => do
    let lacking (size : Nat) (what : String) : ShellM (Form × Octets) :=
      stop 1 ("invalid type string ".toList ++ quoted whole ++ ";\nthis system doesn't provide a ".toList ++
        Text.ofNat size ++ ("-byte " ++ what ++ " type").toList)
    let (f, rest) ←
      if kind = 'a' then pure (({ size := 1, width := 3, text := fun b => nameText (b.headD 0) } : Form), r)
      else if kind = 'c' then pure ({ size := 1, width := 3, text := fun b => charText (b.headD 0) }, r)
      else if "doux".toList.contains kind then do
        let (size, rest) := sizeFrom [('C', 1), ('S', 2), ('I', 4), ('L', 8)] 4 r
        match numberForm? kind size with
        | some f => pure (f, rest)
        | none => lacking size "integral"
      else if kind = 'f' then do
        let (size, rest) := sizeFrom [('F', 4), ('D', 8), ('L', 16)] 8 r
        match realForm? size with
        | some f => pure (f, rest)
        | none => lacking size "floating point"
      else stop 1 ("invalid character '".toList ++ kind :: "' in type string ".toList ++ quoted whole)
    match rest with
    | 'z' :: rest => return { f with trailed := true } :: (← formsOf whole n rest)
    | rest => return f :: (← formsOf whole n rest)

/-! ## Rows -/

/-- What a dump looks like. -/
structure Style where
  forms : List Form
  rowSize : Nat
  address : Nat → Octets
  showsAll : Bool
  bigEndian : Bool := false

/-- The width that all forms of a row have, where each item has a blank in front of it. -/
def Style.rowWidth (s : Style) : Nat :=
  (s.forms.map fun f => (f.width + 1) * (s.rowSize / f.size)).foldl max 0

/-- The items of a row, which share the blanks among them evenly. -/
def itemsText (s : Style) (f : Form) (row : List Nat) : Octets :=
  let count := s.rowSize / f.size
  let pad := s.rowWidth - f.width * count
  let shown := count - (s.rowSize - row.length) / f.size
  let items := (List.range shown).flatMap fun i =>
    let before := pad * (count - i) / count
    let after := pad * (count - i - 1) / count
    let bytes := (row.drop (i * f.size)).take f.size
    let bytes := bytes ++ List.replicate (f.size - bytes.length) 0
    padLeft (before - after + f.width) (f.text (if s.bigEndian then bytes.reverse else bytes))
  if f.trailed then
    let blank := count - shown
    items ++ List.replicate (blank * f.width + pad * blank / count) ' ' ++ "  >".toList ++
      row.map (fun b => if 32 ≤ b ∧ b < 127 then Char.ofNat b else '.') ++ ['<']
  else items

def rowText (s : Style) (offset : Nat) (row : List Nat) : Octets :=
  let lead := s.address offset
  (s.forms.zipIdx).flatMap fun (f, i) =>
    (if i = 0 then lead else List.replicate lead.length ' ') ++ itemsText s f row ++ ['\n']

/-- How far a dump has come. -/
structure Progress where
  offset : Nat
  toSkip : Nat
  left : Option Nat
  pending : List Nat := []
  last : Option (List Nat) := none
  starred : Bool := false

/-- Show a row. -/
def Progress.row (s : Style) (p : Progress) (row : List Nat) : Octets × Progress :=
  let p' := { p with offset := p.offset + row.length, last := some row }
  if !s.showsAll ∧ p.last = some row ∧ row.length = s.rowSize then
    (if p.starred then [] else ['*', '\n'], { p' with starred := true })
  else (rowText s p.offset row, { p' with starred := false })

/-- Show the rows that are full. -/
def Progress.rows (s : Style) : (steps : Nat) → Progress → List Nat → List Octets → Progress × List Octets
  | 0, p, bytes, back => ({ p with pending := bytes }, back)
  | n + 1, p, bytes, back =>
    let row := bytes.take s.rowSize
    if row.length < s.rowSize then ({ p with pending := bytes }, back)
    else
      let (o, p) := p.row s row
      Progress.rows s n p (bytes.drop s.rowSize) (o :: back)

/-- Go on with a portion of the input; tells whether that is enough. -/
def feed (s : Style) (p : Progress) (o : Octets) : ShellM (Progress × Bool) := do
  let body := o.drop p.toSkip
  let p := { p with toSkip := p.toSkip - o.length }
  let body := match p.left with
    | some n => body.take n
    | none => body
  let p := { p with left := p.left.map (· - body.length) }
  let bytes := p.pending ++ body.map Char.toNat
  let (p, back) := Progress.rows s (bytes.length / s.rowSize + 1) p bytes []
  emit back.reverse.flatten
  return (p, p.left == some 0 && p.toSkip == 0)

/-! ## Options -/

/-- A number of bytes in any base, with a letter for a multiple. -/
def bytes? (t : Octets) : Option Nat :=
  let isHex (c : Char) : Bool := c.isDigit || ('a' ≤ c && c ≤ 'f') || ('A' ≤ c && c ≤ 'F')
  let digit (c : Char) : Nat := if c.isDigit then c.toNat - 48 else c.toLower.toNat - 87
  let (base, t) : Nat × Octets := match t with
    | '0' :: x :: r => if (x = 'x' ∨ x = 'X') ∧ r.head?.any isHex then (16, r) else (8, '0' :: x :: r)
    | t => (10, t)
  let ds := t.takeWhile fun c => isHex c && digit c < base
  if ds = [] then none
  else
    let n := ds.foldl (fun n c => n * base + digit c) 0
    (sized? ('1' :: t.drop ds.length)).map (n * ·)

/-- An address in the old form: octal unless a point stands behind it. -/
def oldOffset? (t : Octets) : Option Nat :=
  let t := if t.head? = some '+' then t.drop 1 else t
  let (t, factor) := if t.getLast? = some 'b' then (t.dropLast, 512) else (t, 1)
  if t.getLast? = some '.' then
    let ds := t.dropLast
    if isNumber ds then some (digitsValue ds * factor) else none
  else if "0x".toList.isPrefixOf t then (bytes? t).map (· * factor)
  else if t ≠ [] ∧ t.all fun c => '0' ≤ c ∧ c ≤ '7' then
    some (t.foldl (fun n c => n * 8 + (c.toNat - 48)) 0 * factor)
  else none

/-- The letters that stand for forms. -/
def formLetters : List (Char × String) :=
  [('a', "a"), ('b', "o1"), ('c', "c"), ('d', "u2"), ('D', "u4"), ('e', "fD"), ('f', "fF"), ('F', "fD"), ('h', "x2"),
    ('H', "x4"), ('i', "dI"), ('I', "dL"), ('l', "dL"), ('L', "dL"), ('o', "o2"), ('B', "o2"), ('O', "o4"),
    ('s', "d2"), ('x', "x2"), ('X', "x4")]

def addressGiven (g : Given) : ShellM (Nat → Octets) := do
  match g.value? 'A' with
  | none => return digitsIn 8 7
  | some v =>
    match v.head? with
    | some 'n' => return fun _ => []
    | some 'x' => return digitsIn 16 6
    | some 'd' => return digitsIn 10 7
    | some 'o' => return digitsIn 8 7
    | c => stop 1 ("invalid output address radix '".toList ++ c.toList ++
        "'; it must be one character from [doxn]".toList)

def bytesGiven (g : Given) (letter : Char) : ShellM (Option Nat) := do
  match g.value? letter with
  | none => return none
  | some v =>
    match bytes? v with
    | some n => return some n
    | none => stop 1 ("invalid -".toList ++ letter :: " argument ".toList ++ quoted v)

/-- How many bytes a row has: as many as is asked for, if they make up whole items. -/
def rowSizeGiven (g : Given) (fs : List Form) : ShellM Nat := do
  let common := (fs.map (·.size)).foldl Nat.lcm 1
  match g.value? 'w' with
  | none => return common * max 1 (16 / common)
  | some v =>
    match if v = [] then some 32 else bytes? v with
    | none => stop 1 ("invalid -w argument ".toList ++ quoted v)
    | some n =>
      if n ≠ 0 ∧ n % common = 0 then return n
      else
        grumble ("warning: invalid width ".toList ++ Text.ofNat n ++ "; using ".toList ++ Text.ofNat common ++
          " instead".toList)
        return common

/-- Operands that are files, and the address in the old form behind them. -/
def operandsGiven (g : Given) : List Octets × Option Nat :=
  let isModern := g.options.any fun o => "AjNtvwS".toList.contains o.1
  if isModern && !g.has '\x01' then (g.operands, none)
  else match g.operands with
    | [a] =>
      match oldOffset? a with
      | some n => if a.head? = some '+' || g.has '\x01' then ([], some n) else ([a], none)
      | none => ([a], none)
    | [a, b] =>
      match oldOffset? b with
      | some n => if b.head?.any (fun c => c = '+' || c.isDigit) || g.has '\x01' then ([a], some n) else ([a, b], none)
      | none => ([a, b], none)
    | all => (all, none)

def od : Utility := fun _ args => do
  let g ← given (forms (formLetters.map (fun (c, _) => (c, "")) ++ [('v', "output-duplicates"), ('\x01', "traditional")])
    [('A', "address-radix"), ('t', "format"), ('N', "read-bytes"), ('j', "skip-bytes"), ('\x02', "endian"), ('S', "strings")] ++
    [⟨'w', "width", .maybe⟩]) args
  let address ← addressGiven g
  let skip ← bytesGiven g 'j'
  let limit ← bytesGiven g 'N'
  let kinds := g.options.filterMap fun (c, v) =>
    if c = 't' then some v else (formLetters.lookup c).map String.toList
  let kinds := if kinds.all (· == []) then ["o2".toList] else kinds
  let fs := (← kinds.mapM fun t => formsOf t (t.length + 1) t).flatten
  let bigEndian ← match g.value? '\x02' with
    | none => pure false
    | some v =>
      if v ≠ [] ∧ v.isPrefixOf "big".toList then pure true
      else if v ≠ [] ∧ v.isPrefixOf "little".toList then pure false
      else
        grumble ("invalid argument ".toList ++ quoted v ++ " for '--endian'".toList)
        say 2 "Valid arguments are:\n  - 'little'\n  - 'big'\n".toList
        pointToHelp
        exit 1
  let (operands, oldSkip) := operandsGiven g
  let s : Style := { forms := fs, rowSize := ← rowSizeGiven g fs, address, showsAll := g.has 'v', bigEndian }
  let skip := (skip.or oldSkip).getD 0
  let names := if operands = [] then [['-']] else operands
  let mut p : Progress := { offset := skip, toSkip := skip, left := limit }
  let mut code := 0
  for name in names do
    if p.left == some 0 && p.toSkip == 0 then continue
    let isInput := name = ['-']
    let shown := if isInput then "standard input".toList else named name
    match ← openOperand name with
    | .error e =>
      grumble ((if isInput then quoted shown else shown) ++ ": ".toList ++ e.wording.toList)
      code := 1
    | .ok n =>
      match ← eachBlock n (feed s) maxBlocks p with
      | .ok q => p := q
      | .error e =>
        grumble (shown ++ ": ".toList ++ e.wording.toList)
        code := 1
  if p.toSkip > 0 then stop 1 "cannot skip past end of combined input".toList
  if p.pending ≠ [] then
    let (o, q) := p.row s p.pending
    emit o
    p := q
  let last := address p.offset
  if last ≠ [] then emitLine last
  if ← lacksInput operands then
    grumble ("standard input: ".toList ++ OsError.badDescriptor.wording.toList)
  return code

end Dumping

end KarelBuild.Shell.Utility
