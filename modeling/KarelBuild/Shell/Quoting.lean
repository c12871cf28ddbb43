import KarelBuild.Shell.Arithmetic
import KarelBuild.Shell.Field
import KarelBuild.Shell.Reading.Word

/-!
# Quoting

Values are shown so that the shell can read them again: between quotes, or with backslashes. The rich
dialect writes what cannot be shown with escapes between a dollar sign and quotes.
-/

namespace KarelBuild.Shell.Quoting

/-! ## Kinds of quotes -/

/-- Letters of escapes by the bytes that they stand for. -/
def escapedLetters : List (Char × Char) :=
  [('\x1b', 'E'), ('\x07', 'a'), ('\x08', 'b'), ('\x0c', 'f'), ('\n', 'n'), ('\r', 'r'), ('\t', 't'),
    ('\x0b', 'v'), ('\\', '\\'), ('\'', '\'')]

def octal (c : Char) : Octets :=
  let digits := Nat.toDigits 8 c.toNat
  '\\' :: List.replicate (3 - digits.length) '0' ++ digits

def isShown (c : Char) : Bool := ' ' ≤ c && c ≤ '~'

/-- Text with escapes behind a dollar sign. -/
def ansi (t : Octets) : Octets :=
  "$'".toList ++ (t.flatMap fun c =>
    match escapedLetters.lookup c with
    | some d => ['\\', d]
    | none => if isShown c then [c] else octal c) ++ ['\'']

def needsAnsi (t : Octets) : Bool := t.any (!isShown ·)

/-- Text between single quotes; a single quote in it stands behind a backslash. -/
def single (t : Octets) : Octets :=
  if t = ['\''] then "\\'".toList
  else '\'' :: (t.flatMap fun c => if c = '\'' then "'\\''".toList else [c]) ++ ['\'']

/-- Text between double quotes, with backslashes where they are needed. -/
def double (t : Octets) : Octets :=
  if needsAnsi t then ansi t
  else '"' :: (t.flatMap fun c => if "\"\\$\x60".toList.contains c then ['\\', c] else [c]) ++ ['"']

/-- A text that is read back as it is. -/
def reusable (t : Octets) : Octets := if needsAnsi t then ansi t else single t

def marks : List Char := " \t\n'\"\\|&;()<>!\x7b\x7d*[]?^$\x60".toList

/-- Whether a text has characters that mean something outside quotes. -/
def hasMarks (t : Octets) : Bool :=
  t.any marks.contains || t.head? == some '#' || t.head? == some '~'

/-- A text as it is, unless it needs quotes. -/
def sparing (t : Octets) : Octets :=
  if needsAnsi t then ansi t else if hasMarks t then single t else t

def traced (t : Octets) : Octets := if t = [] then "''".toList else sparing t

/-- Text with backslashes before what means something outside quotes. -/
def backslashed (t : Octets) : Octets :=
  if t = [] then "''".toList
  else if needsAnsi t then ansi t
  else
    let front := t.takeWhile fun c => c == '#' || c == '~'
    (front.take 1).flatMap (['\\', ·]) ++ (t.drop (front.take 1).length).flatMap fun c =>
      if marks.contains c || c == ',' then ['\\', c] else [c]

/-- The key of a table. -/
def key (t : Octets) : Octets := if hasMarks t || t = [] || needsAnsi t then double t else t

/-! ## Escapes -/

/-- Escapes undone as between a dollar sign and quotes. -/
def unescapedFrom : (steps : Nat) → Octets → Octets
  | 0, t => t
  | _, [] => []
  | n + 1, '\\' :: c :: r =>
    if isOctalDigit c then
      let digits := ((c :: r).take 3).takeWhile isOctalDigit
      byteOf 8 digits :: unescapedFrom n ((c :: r).drop digits.length)
    else if c = 'x' then
      let digits := (r.take 2).takeWhile isHexDigit
      if digits = [] then '\\' :: c :: unescapedFrom n r
      else byteOf 16 digits :: unescapedFrom n (r.drop digits.length)
    else if c = 'u' ∨ c = 'U' then
      let digits := (r.take (if c = 'u' then 4 else 8)).takeWhile isHexDigit
      if digits = [] then '\\' :: c :: unescapedFrom n r
      else codePointText (digits.foldl (fun n d => n * 16 + hexValue d) 0) ++
        unescapedFrom n (r.drop digits.length)
    else if c = 'c' then
      match r with
      | d :: r => Char.ofNat (d.toUpper.toNat &&& 0x1f) :: unescapedFrom n r
      | [] => ['\\', c]
    else if c = 'e' ∨ c = 'E' then '\x1b' :: unescapedFrom n r
    else if c = '\'' ∨ c = '"' ∨ c = '?' then c :: unescapedFrom n r
    else match escapeLetters.lookup c with
      | some d => d :: unescapedFrom n r
      | none => '\\' :: c :: unescapedFrom n r
  | n + 1, c :: r => c :: unescapedFrom n r

def unescaped (t : Octets) : Octets := unescapedFrom (t.length + 1) t

/-- What the escapes of a prompt stand for. -/
def prompt (p : Process) : Octets → Octets
  | '\\' :: c :: r =>
    let dir := p.logicalDir
    let home := (p.value? "HOME".toList).getD []
    let shortDir := if home ≠ [] ∧ home.isPrefixOf dir then '~' :: dir.drop home.length else dir
    let text : Octets := match c with
      | '$' => ['#']
      | 'w' => shortDir
      | 'W' =>
        if shortDir = ['~'] then shortDir
        else if dir = ['/'] then dir else ((Text.cutLast '/' dir).map (·.2)).getD dir
      | 'u' => "root".toList
      | 'h' => (Text.cut '.' ((p.value? "HOSTNAME".toList).getD [])).1
      | 'H' => (p.value? "HOSTNAME".toList).getD []
      | 's' => ((Text.cutLast '/' p.name).map (·.2)).getD p.name
      | 'n' => ['\n']
      | 'r' => ['\r']
      | 'a' => ['\x07']
      | 'e' => ['\x1b']
      | 'v' => "5.2".toList
      | 'j' => ['0']
      | '#' => ['1']
      | '!' => ['1']
      | '\\' => ['\\']
      | '[' => []
      | ']' => []
      | c => ['\\', c]
    text ++ prompt p r
  | c :: r => c :: prompt p r
  | [] => []

end Quoting

/-! ## Declarations -/

/-- Letters for what a variable is. -/
def Variable.letters (v : Variable) : Octets :=
  (match v.content with
    | .list _ => ['a']
    | .table _ => ['A']
    | _ => []) ++
  (if v.isNumber then ['i'] else []) ++ (if v.refers then ['n'] else []) ++
  (if v.readOnly then ['r'] else []) ++ (if v.isTraced then ['t'] else []) ++
  (if v.exported then ['x'] else []) ++
  match v.casing with
  | .kept => []
  | .capital => ['c']
  | .lower => ['l']
  | .upper => ['u']

namespace Quoting

def item (key : Octets) (o : Octets) : Octets := '[' :: key ++ "]=".toList ++ double o

/-- The members of a list or of a table. -/
def items (c : Content) : Octets :=
  match c with
  | .list ms => '(' :: Text.join [' '] (ms.map fun m => item (Text.ofNat m.1) m.2) ++ [')']
  | .table ms => '(' :: ms.flatMap (fun m => item (key m.1) m.2 ++ [' ']) ++ [')']
  | _ => []

/-- A variable as it is declared. -/
def declared (name : Text) (v : Variable) : Octets :=
  let value := match v.content with
    | .unset => []
    | .text o => '=' :: double o
    | c => if v.isBare then [] else '=' :: items c
  "declare -".toList ++ (if v.letters = [] then ['-'] else v.letters) ++ ' ' :: name ++ value ++ ['\n']

end Quoting

end KarelBuild.Shell
