import KarelBuild.Shell.Real
import KarelBuild.Shell.Utility.Lines
import KarelBuild.Shell.Utility.Versions

/-!
# Sorting lines

Lines are ordered by their keys, one after another, and at last by all their bytes. A key is a part of
a line with a way to compare it.
-/

namespace KarelBuild.Shell.Utility

open ShellM

/-- Where a key begins or ends: a field and a character, from 1 on. -/
structure KeyPlace where
  field : Nat
  char : Nat
  skipsBlanks : Bool := false

/-- A key with the letters that say how it is compared. -/
structure SortKey where
  first : KeyPlace
  last : Option KeyPlace
  letters : List Char

/-! ## Reading keys -/

def placeOf (spec text : Octets) (isFirst : Bool) : ShellM (KeyPlace × Octets) := do
  let what := if isFirst then "at field start" else "after ','"
  let ds := text.takeWhile Char.isDigit
  if ds = [] then
    stop 2 ("invalid number ".toList ++ what.toList ++ ": invalid count at start of ".toList ++ quoted text)
  else
    let rest := text.drop ds.length
    if digitsValue ds = 0 then
      stop 2 ("field number is zero: invalid field specification ".toList ++ quoted spec)
    else match rest with
      | '.' :: r =>
        let cs := r.takeWhile Char.isDigit
        if cs = [] then
          stop 2 ("invalid number after '.': invalid count at start of ".toList ++ quoted r)
        else if isFirst ∧ digitsValue cs = 0 then
          stop 2 ("character offset is zero: invalid field specification ".toList ++ quoted spec)
        else return (⟨digitsValue ds, digitsValue cs, false⟩, r.drop cs.length)
      | _ => return (⟨digitsValue ds, 0, false⟩, rest)

def keyLetters (spec : Octets) (t : Octets) : ShellM (List Char × Octets) := do
  let letters := t.takeWhile Char.isAlpha
  if letters.all "bdfghiMnRrV".toList.contains then return (letters, t.drop letters.length)
  else stop 2 ("stray character in field spec: invalid field specification ".toList ++ quoted spec)

def keyOf (spec : Octets) : ShellM SortKey := do
  let (first, rest) ← placeOf spec spec true
  let (letters, rest) ← keyLetters spec rest
  let first := { first with skipsBlanks := letters.contains 'b' }
  match rest with
  | [] => return ⟨first, none, letters⟩
  | ',' :: r =>
    let (last, rest) ← placeOf spec r false
    let (more, rest) ← keyLetters spec rest
    if rest = [] then
      return ⟨first, some { last with skipsBlanks := more.contains 'b' }, letters ++ more⟩
    else stop 2 ("stray character in field spec: invalid field specification ".toList ++ quoted spec)
  | _ => stop 2 ("stray character in field spec: invalid field specification ".toList ++ quoted spec)

/-! ## Fields -/

def isBlankChar (c : Char) : Bool := c == ' ' || c == '\t' || c == '\n'

/-- How much of a line stands before a field, and before its end. -/
def fieldStart (separator : Option Char) : (field : Nat) → (steps : Nat) → Octets → Nat
  | _, 0, _ => 0
  | 0, _, _ => 0
  | n + 1, k + 1, l =>
    match separator with
    | some c =>
      let field := l.takeWhile (· != c)
      if field.length = l.length then l.length
      else field.length + 1 + fieldStart separator n k (l.drop (field.length + 1))
    | none =>
      let blanks := l.takeWhile isBlankChar
      let field := (l.drop blanks.length).takeWhile (!isBlankChar ·)
      let size := blanks.length + field.length
      if size = 0 then 0 else size + fieldStart separator n k (l.drop size)

def fieldEnd (separator : Option Char) (field : Nat) (l : Octets) : Nat :=
  let start := fieldStart separator (field - 1) (l.length + 1) l
  let rest := l.drop start
  match separator with
  | some c => start + (rest.takeWhile (· != c)).length
  | none =>
    let blanks := rest.takeWhile isBlankChar
    start + blanks.length + ((rest.drop blanks.length).takeWhile (!isBlankChar ·)).length

def keyText (separator : Option Char) (k : SortKey) (l : Octets) : Octets :=
  let blanksFrom (n : Nat) : Nat := ((l.drop n).takeWhile isBlankChar).length
  let start := fieldStart separator (k.first.field - 1) (l.length + 1) l
  let start := if k.first.skipsBlanks then start + blanksFrom start else start
  let start := min l.length (start + (k.first.char - 1))
  let stop := match k.last with
    | none => l.length
    | some p =>
      if p.char = 0 then fieldEnd separator p.field l
      else
        let from_ := fieldStart separator (p.field - 1) (l.length + 1) l
        let from_ := if p.skipsBlanks then from_ + blanksFrom from_ else from_
        min l.length (from_ + p.char)
  (l.take stop).drop start

/-! ## Comparing -/

/-- The number in front of a text, without more digits behind its point than are there. -/
def leadingNumber (t : Octets) : Scaled :=
  let t := t.dropWhile isBlankChar
  let (negative, body) := match t with
    | '-' :: r => (true, r)
    | r => (false, r)
  let whole := body.takeWhile Char.isDigit
  let fraction := match body.drop whole.length with
    | '.' :: r => r.takeWhile Char.isDigit
    | _ => []
  let n : Int := digitsValue (whole ++ fraction)
  ⟨if negative then -n else n, fraction.length⟩

def compareScaled (a b : Scaled) : Ordering :=
  let places := max a.places b.places
  compare (a.at_ places) (b.at_ places)

/-- The power of a thousand that a letter behind a number stands for, negative for a negative number. -/
def humanSize (t : Octets) : Int :=
  let t := t.dropWhile isBlankChar
  let (negative, body) := match t with
    | '-' :: r => (true, r)
    | r => (false, r)
  let whole := body.takeWhile Char.isDigit
  let (part, rest) := match body.drop whole.length with
    | '.' :: r => (r.takeWhile Char.isDigit, r.dropWhile Char.isDigit)
    | r => ([], r)
  if (whole ++ part).all (· == '0') then 0
  else match rest with
    | c :: _ =>
      let size : Int := ("kKMGTPEZY".toList.zip [1, 1, 2, 3, 4, 5, 6, 7, 8]).lookup c |>.getD 0
      if negative then -size else size
    | [] => 0

/-- A number in any form: what is none comes first, then what is undefined. -/
def compareReals (a b : Octets) : Ordering :=
  match Real.read? 64 a, Real.read? 64 b with
  | none, none => .eq
  | none, some _ => .lt
  | some _, none => .gt
  | some (x, _), some (y, _) => (compare (kind x) (kind y)).then (compareFinite x y)
where
  kind (x : Real) : Nat :=
    match x.magnitude with
    | .undefined => 0
    | .infinite => if x.negative then 1 else 3
    | .finite _ _ => 2
  compareFinite (x y : Real) : Ordering :=
    match x.magnitude, y.magnitude with
    | .finite m e, .finite n f =>
      let low := min e f
      let at_ (negative : Bool) (m : Nat) (e : Int) : Int :=
        let n : Int := m <<< (e - low).toNat
        if negative then -n else n
      compare (at_ x.negative m e) (at_ y.negative n f)
    | _, _ => .eq

def monthOf (t : Octets) : Nat :=
  let name := String.ofList (((t.dropWhile isBlankChar).take 3).map Char.toUpper)
  ((["JAN", "FEB", "MAR", "APR", "MAY", "JUN", "JUL", "AUG", "SEP", "OCT", "NOV", "DEC"].zip
    (List.range 12)).lookup name).elim 0 (· + 1)

def compareBy (letters : List Char) (a b : Octets) : Ordering :=
  let has := letters.contains
  if has 'n' then compareScaled (leadingNumber a) (leadingNumber b)
  else if has 'g' then compareReals a b
  else if has 'h' then
    match compare (humanSize a) (humanSize b) with
    | .eq => compareScaled (leadingNumber a) (leadingNumber b)
    | o => o
  else if has 'M' then compare (monthOf a) (monthOf b)
  else if has 'V' then compareVersions a b
  else
    let clean (t : Octets) : Octets :=
      let t := if has 'd' then t.filter fun c => c.isAlphanum || isBlankChar c else t
      let t := if has 'i' then t.filter isPrintable else t
      if has 'f' then t.map Char.toUpper else t
    compareText (clean a) (clean b)

/-! ## Orders -/

structure SortOrder where
  separator : Option Char
  keys : List SortKey
  letters : List Char
  stable : Bool

namespace SortOrder

/-- Compare by the keys alone. -/
def byKeys (s : SortOrder) (a b : Octets) : Ordering :=
  go s.keys
where
  go : List SortKey → Ordering
    | [] => .eq
    | k :: rest =>
      let o := compareBy k.letters (keyText s.separator k a) (keyText s.separator k b)
      let o := if k.letters.contains 'r' then o.swap else o
      if o = .eq then go rest else o

def compare (s : SortOrder) (a b : Octets) : Ordering :=
  match s.byKeys a b with
  | .eq =>
    if s.stable then .eq
    else
      let o := compareText a b
      if s.letters.contains 'r' then o.swap else o
  | o => o

end SortOrder

/-- Leave out lines that are equal to the one before. -/
def distinctLines (same : Octets → Octets → Bool) : List Octets → List Octets
  | [] => []
  | l :: rest =>
    match distinctLines same rest with
    | m :: ms => if same l m then l :: ms else l :: m :: ms
    | [] => [l]

/-- The first line that is out of order, with its number. -/
def disorder (bad : Octets → Octets → Bool) : (n : Nat) → List Octets → Option (Nat × Octets)
  | n, a :: b :: rest => if bad a b then some (n + 1, b) else disorder bad (n + 1) (b :: rest)
  | _, _ => none

/-! ## The utility -/

/-- Letters of orders that exclude each other. -/
def exclusiveOrders : List (List Char) := [['n'], ['g'], ['h'], ['M'], ['V', 'R', 'd', 'i']]

/-- Complain of orders that exclude each other. -/
def requireCompatible (letters : List Char) : ShellM Unit := do
  if (exclusiveOrders.filter fun ls => letters.any ls.contains).length > 1 then
    let ignored := letters.find? fun c => c == 'd' || c == 'i'
    let shown := "dfghiMnRV".toList.filter fun c =>
      letters.contains c && (c != 'd' || ignored == some 'd') && (c != 'i' || ignored == some 'i')
    stop 2 ("options '-".toList ++ shown ++ "' are incompatible".toList)

/-- The lines of each operand. -/
def sortedLines (mark : Char) (operands : List Octets) : ShellM (List (List Octets)) := do
  if ← lacksInput operands then stop 2 "stat failed: -: Bad file descriptor".toList
  let mut lines : List (List Octets) := []
  for name in if operands = [] then [['-']] else operands do
    match ← readOperand name with
    | .ok o =>
      let (whole, rest) := wholeLines mark o
      lines := (whole.map Prod.fst ++ if rest = [] then [] else [rest]) :: lines
    | .error e =>
      if e = .isDirectory then stop 2 ("read failed: ".toList ++ reason name e)
      else stop 2 ("cannot read: ".toList ++ reason name e)
  return lines.reverse

/-- Lines of several files, of which always the least of those in front comes next. -/
def mergedLines (isBefore : Octets → Octets → Bool) : (steps : Nat) → List (List Octets) → List Octets
  | 0, _ => []
  | n + 1, files =>
    match files.filter (· ≠ []) with
    | [] => []
    | [last] => last
    | first :: others =>
      let least := others.foldl (fun best f =>
        match best, f with
        | a :: _, b :: _ => if isBefore b a then f else best
        | _, _ => best) first
      match least with
      | [] => []
      | l :: _ =>
        let (front, back) := (first :: others).span (·.head? != least.head?)
        l :: mergedLines isBefore n (front ++ (back.take 1).map (·.drop 1) ++ back.drop 1)

def sortChoices : List (String × Char) :=
  [("general-numeric", 'g'), ("human-numeric", 'h'), ("month", 'M'), ("numeric", 'n'), ("random", 'R'), ("version", 'V')]

def checkChoices : List (String × Char) := [("quiet", 'C'), ("silent", 'C'), ("diagnose-first", 'c')]

/-- Put letters in the place of options that have a word for each. -/
def sortLetter (o : Char × Octets) : ShellM (Char × Octets) := do
  let choose (option shown : String) (choices : List (String × Char)) : ShellM (Char × Octets) := do
    match choices.filter fun (s, _) => o.2.isPrefixOf s.toList with
    | (_, c) :: _ => return (c, [])
    | [] =>
      grumble ("invalid argument ".toList ++ quoted o.2 ++ " for '".toList ++ option.toList ++ ['\''])
      say 2 ("Valid arguments are:\n".toList ++ shown.toList)
      say 2 ("Try '".toList ++ (← programName) ++ " --help' for more information.\n".toList)
      exit 1
  if o.1 = '\x01' then
    choose "--sort" ("  - 'general-numeric'\n  - 'human-numeric'\n  - 'month'\n  - 'numeric'\n  - 'random'\n" ++
      "  - 'version'\n") sortChoices
  else if o.1 = '\x02' then
    if o.2 = [] then return ('c', [])
    else choose "--check" "  - 'quiet', 'silent'\n  - 'diagnose-first'\n" checkChoices
  else return o

def separatorOf (g : Given) : ShellM (Option Char) := do
  let chars ← (g.options.filter (·.1 == 't')).mapM fun (_, t) => do
    match t with
    | [c] => return c
    | [] => stop 2 "empty tab".toList
    | ['\\', '0'] => return '\x00'
    | t => stop 2 ("multi-character tab ".toList ++ quoted t)
  match chars with
  | [] => return none
  | c :: rest => if rest.any (· != c) then stop 2 "incompatible tabs".toList else return some c

/-- The keys that were asked for; one without letters of its own has those that are for all. -/
def keysOf (g : Given) (letters : List Char) : ShellM (List SortKey) := do
  let keys ← (g.options.filter (·.1 == 'k')).mapM fun o => keyOf o.2
  let keys := keys.map fun (k : SortKey) =>
    if k.letters = [] then
      let first := { k.first with skipsBlanks := letters.contains 'b' }
      let last := k.last.map fun (p : KeyPlace) => { p with skipsBlanks := letters.contains 'b' }
      { k with letters, first, last }
    else k
  let whole : SortKey := ⟨⟨1, 0, letters.contains 'b'⟩, none, letters⟩
  let keys := if keys = [] then [whole] else keys
  keys.forM fun k => requireCompatible k.letters
  return keys

/-- Tell whether lines are in order. -/
def checkLines (s : SortOrder) (isStrict tells : Bool) (name : Octets) (lines : List Octets) : ShellM Nat := do
  let bad (a b : Octets) : Bool :=
    let o := if isStrict then s.byKeys a b else s.compare a b
    o == .gt || (isStrict && o == .eq)
  match disorder bad 1 lines with
  | none => return 0
  | some (n, l) =>
    if tells then grumble (name ++ ':' :: Text.ofNat n ++ ": disorder: ".toList ++ l)
    return 1

def sort : Utility := fun _ args => do
  -- A key may be given as the number of fields in front of it.
  let args := args.flatMap fun a => match a with
    | '+' :: r => if isNumber r then ["-k".toList, Text.ofNat (digitsValue r + 1)] else [a]
    | a => [a]
  let g ← readGiven (forms [('b', "ignore-leading-blanks"), ('d', "dictionary-order"), ('f', "ignore-case"),
    ('g', "general-numeric-sort"), ('h', "human-numeric-sort"), ('i', "ignore-nonprinting"),
    ('M', "month-sort"), ('n', "numeric-sort"), ('R', "random-sort"), ('r', "reverse"),
    ('V', "version-sort"), ('c', ""), ('C', ""), ('m', "merge"), ('s', "stable"), ('u', "unique"),
    ('z', "zero-terminated"), ('\x03', "debug")] [('k', "key"), ('o', "output"), ('t', "field-separator"),
    ('S', "buffer-size"), ('T', "temporary-directory"), ('\x01', "sort"), ('\x04', "parallel"),
    ('\x04', "batch-size"), ('\x04', "compress-program"), ('\x04', "random-source")] ++ [⟨'\x02', "check", .maybe⟩])
    2 true args
  let options ← g.options.mapM sortLetter
  let g := { g with options }
  let separator ← separatorOf g
  let letters := (g.options.map (·.1)).filter "bdfghiMnRrV".toList.contains
  let keys ← keysOf g letters
  let s : SortOrder := { separator, keys, letters, stable := g.has 's' || g.has 'u' }
  let mark := if g.has 'z' then '\x00' else '\n'
  let checks := g.last? "cC"
  if g.has 'c' ∧ g.has 'C' then stop 2 "options '-cC' are incompatible".toList
  match checks, g.value? 'o', g.operands with
  | some c, some _, _ => stop 2 ("options '-".toList ++ [c] ++ "o' are incompatible".toList)
  | some c, _, _ :: extra :: _ =>
    stop 2 ("extra operand ".toList ++ quoted extra ++ " not allowed with -".toList ++ [c])
  | _, _, _ => pure ()
  let files ← sortedLines mark g.operands
  match checks with
  | some c => checkLines s (g.has 'u') (c = 'c') (g.operands.headD ['-']) files.flatten
  | none =>
    let lines := files.flatten
    let sorted := if g.has 'm' then mergedLines (fun a b => s.compare a b == .lt) (lines.length + 1) files
      else lines.mergeSort fun a b => s.compare a b != .gt
    let sorted := if g.has 'u' then distinctLines (fun a b => s.byKeys a b == .eq) sorted else sorted
    let text := sorted.flatMap (· ++ [mark])
    match g.value? 'o' with
    | some path =>
      match ← openPath path .writes with
      | .ok n => let _ ← writeTo n text
      | .error e => stop 2 ("open failed: ".toList ++ reason path e)
    | none => emit text
    return 0

end KarelBuild.Shell.Utility
