import KarelBuild.Shell.Utility.Versions
import KarelBuild.Shell.Utility.Files

/-!
# Joining lines

`join` pairs the lines of two files that have a field in common. Both files are in the order of that field, so
they are read side by side; lines that turn out to be in another order are complained of.
-/

namespace KarelBuild.Shell.Utility

open ShellM

namespace Joining

/-- Whether the order of lines is looked after: never, always, or once a line has no partner. -/
inductive Order where
  | ignored
  | required
  | usual
  deriving DecidableEq, Repr

/-- What is put out of a pair of lines: the common field, or a field of a side. -/
inductive Place where
  | common
  | field (second : Bool) (n : Nat)
  deriving DecidableEq, Repr

/-- Where fields end: at blanks, at a byte, or only with the line. -/
inductive Separator where
  | blanks
  | byte (c : Char)
  | none
  deriving DecidableEq, Repr

structure Style where
  separator : Separator := .blanks
  ignoresCase : Bool := false
  firstField : Nat := 0
  secondField : Nat := 0
  /-- Whether lines that have a partner are put out, and those of a side that have none. -/
  pairs : Bool := true
  lonelyFirst : Bool := false
  lonelySecond : Bool := false
  places : List Place := []
  automatic : Bool := false
  filler : Octets := []
  hasHeaders : Bool := false
  order : Order := .usual
  stop : Char := '\n'

/-- A line: what is in it, and its fields. -/
structure Line where
  text : Octets
  fields : Array Octets

def isBlank (c : Char) : Bool := c == ' ' || c == '\t' || c == '\n'

/-- The fields between blanks; blanks at the end part an empty field from the others. -/
def blankFields : (steps : Nat) → Octets → List Octets
  | 0, _ => []
  | n + 1, o =>
    let field := o.takeWhile (!isBlank ·)
    match o.drop field.length with
    | [] => [field]
    | rest =>
      match rest.dropWhile isBlank with
      | [] => [field, []]
      | rest => field :: blankFields n rest

def Line.read (s : Separator) (text : Octets) : Line :=
  let fields := if text = [] then []
    else match s with
      | .byte c => Text.split c text
      | .none => [text]
      | .blanks =>
        match text.dropWhile isBlank with
        | [] => []
        | o => blankFields (o.length + 1) o
  ⟨text, fields.toArray⟩

/-- The order of two fields; one that is missing is the same as an empty one. -/
def compareKeys (s : Style) (x y : Octets) : Ordering :=
  let fold (o : Octets) : Octets := if s.ignoresCase then o.map Char.toUpper else o
  compareText (fold x) (fold y)

def Style.keyOf (s : Style) (second : Bool) (l : Line) : Octets :=
  l.fields.getD (if second then s.secondField else s.firstField) []

/-- What is left of a side: its lines, the line before, and whether a complaint of its order has been made. -/
structure Side where
  name : Octets
  rest : List Octets
  number : Nat := 0
  last : Option Line := none
  warned : Bool := false

structure JoinState where
  first : Side
  second : Side
  sawLonely : Bool := false
  counts : Nat × Nat := (0, 0)

abbrev JoinM := StateT JoinState ShellM

section

variable (s : Style)

/-- The text of a field; a filler stands for what is missing or empty. -/
def fieldText (l : Option Line) (n : Nat) : Octets :=
  match (l.bind (·.fields[n]?)).getD [] with
  | [] => s.filler
  | o => o

def separatorText : Char := match s.separator with
  | .blanks => ' '
  | .byte c => c
  | .none => '\n'

/-- Put out a pair of lines, of which one may be missing. -/
def putPair (x y : Option Line) : JoinM Unit := do
  let common := match x with
    | none => fieldText s y s.secondField
    | some _ => fieldText s x s.firstField
  let counts := (← get).counts
  let others (l : Option Line) (key automatic : Nat) : List Octets :=
    let count := if s.automatic then automatic else (l.map (·.fields.size)).getD 0
    ((List.range count).filter (· != key)).map (fieldText s l)
  let texts := if s.places = [] then
      common :: others x s.firstField counts.1 ++ others y s.secondField counts.2
    else s.places.map fun p => match p with
      | .common => common
      | .field false n => fieldText s x n
      | .field true n => fieldText s y n
  emit (Text.join [separatorText s] texts ++ [s.stop])

/-- Read the next line of a side, and see whether it is in order. -/
def nextLine (second : Bool) : JoinM (Option Line) := do
  let state ← get
  let side := if second then state.second else state.first
  let put (side : Side) : JoinM Unit := modify fun t =>
    if second then { t with second := side } else { t with first := side }
  match side.rest with
  | [] => return none
  | text :: rest =>
    let l := Line.read s.separator text
    let number := side.number + 1
    let isLooked := s.order == .required || (s.order == .usual && state.sawLonely)
    let isWrong := isLooked && !side.warned && side.last.any fun before =>
      compareKeys s (s.keyOf second before) (s.keyOf second l) == .gt
    put { side with rest, number, last := some l, warned := side.warned || isWrong }
    if isWrong then
      let message := side.name ++ ':' :: Text.ofNat number ++ ": is not sorted: ".toList ++ text
      if s.order == .required then stop 1 message else grumble message
    return some l

/-- Read on while the key stays the same. Gives the lines with the key, and the one behind them. -/
def readGroup (second : Bool) (key : Octets) : (steps : Nat) → (back : List Line) →
    JoinM (List Line × Option Line)
  | 0, back => return (back.reverse, none)
  | n + 1, back => do
    match ← nextLine s second with
    | none => return (back.reverse, none)
    | some l =>
      if compareKeys s (s.keyOf second l) key == .eq then readGroup second key n (l :: back)
      else return (back.reverse, some l)

/-- Go through both sides up to the end of one. -/
def pairUp : (steps : Nat) → Option Line → Option Line → JoinM (Option Line × Option Line)
  | 0, x, y => return (x, y)
  | n + 1, some x, some y => do
    match compareKeys s (s.keyOf false x) (s.keyOf true y) with
    | .lt =>
      if s.lonelyFirst then putPair s (some x) none
      let next ← nextLine s false
      modify fun t => { t with sawLonely := true }
      pairUp n next (some y)
    | .gt =>
      if s.lonelySecond then putPair s none (some y)
      let next ← nextLine s true
      modify fun t => { t with sawLonely := true }
      pairUp n (some x) next
    | .eq =>
      let size := (← get).first.rest.length + (← get).second.rest.length + 1
      let (xs, nextX) ← readGroup s false (s.keyOf true y) size [x]
      let (ys, nextY) ← readGroup s true (s.keyOf false x) size [y]
      if s.pairs then
        for a in xs do
          for b in ys do putPair s (some a) (some b)
      pairUp n nextX nextY
  | _, x, y => return (x, y)

/-- Go through what is left of a side. -/
def readTail (second prints : Bool) : (steps : Nat) → JoinM Unit
  | 0 => return
  | n + 1 => do
    match ← nextLine s second with
    | none => return
    | some l =>
      if prints then if second then putPair s none (some l) else putPair s (some l) none
      let state ← get
      let side := if second then state.second else state.first
      if side.warned && !prints then return else readTail second prints n

def joinSides : JoinM Unit := do
  let x ← nextLine s false
  let y ← nextLine s true
  let fieldCount (l : Option Line) : Nat := (l.map (·.fields.size)).getD 0
  if s.automatic then modify fun t => { t with counts := (fieldCount x, fieldCount y) }
  let (x, y) ← if s.hasHeaders && (x.isSome || y.isSome) then do
      putPair s x y
      modify fun t => { t with first := { t.first with last := none }, second := { t.second with last := none } }
      let x ← if x.isSome then nextLine s false else pure none
      let y ← if y.isSome then nextLine s true else pure none
      pure (x, y)
    else pure (x, y)
  let size := (← get).first.rest.length + (← get).second.rest.length + 3
  let (x, y) ← pairUp s size x y
  let state ← get
  let looksOn := s.order != .ignored && !(state.first.warned && state.second.warned)
  if (s.lonelyFirst || looksOn) && x.isSome then
    if s.lonelyFirst then putPair s x none
    if y.isSome then modify fun t => { t with sawLonely := true }
    readTail s false s.lonelyFirst size
  if (s.lonelySecond || looksOn) && y.isSome then
    if s.lonelySecond then putPair s none y
    if x.isSome then modify fun t => { t with sawLonely := true }
    readTail s true s.lonelySecond size
  let state ← get
  if state.first.warned || state.second.warned then stop 1 "input is not in sorted order".toList

end

/-! ## Options -/

def fieldNumber (v : Octets) : ShellM Nat := do
  if isNumber v ∧ digitsValue v ≠ 0 then return digitsValue v - 1
  else stop 1 ("invalid field number: ".toList ++ quoted v)

def placeGiven (t : Octets) : ShellM Place := do
  match t with
  | ['0'] => return .common
  | '0' :: _ => stop 1 ("invalid field specifier: ".toList ++ quoted t)
  | c :: '.' :: v =>
    if c = '1' ∨ c = '2' then return .field (c == '2') (← fieldNumber v)
    else stop 1 ("invalid file number in field spec: ".toList ++ quoted t)
  | c :: _ =>
    if c = '1' ∨ c = '2' then stop 1 ("invalid field specifier: ".toList ++ quoted t)
    else stop 1 ("invalid file number in field spec: ".toList ++ quoted t)
  | [] => stop 1 ("invalid file number in field spec: ".toList ++ quoted t)

def placesGiven (t : Octets) : ShellM (List Place) :=
  (((t.map fun c => if c = ' ' ∨ c = '\t' then ',' else c) |> Text.split ',').mapM placeGiven)

def separatorGiven (v : Octets) : ShellM Separator := do
  match v with
  | [] => return .none
  | [c] => return .byte c
  | ['\\', '0'] => return .byte '\x00'
  | v => stop 1 ("multi-character tab ".toList ++ quoted v)

/-- The field that options ask for, on a side. -/
def joinField (g : Given) (letter : Char) : ShellM Nat := do
  let all ← (g.options.filter fun o => o.1 == letter || o.1 == 'j').mapM fun o => fieldNumber o.2
  match all with
  | [] => return 0
  | n :: rest =>
    match rest.find? (· != n) with
    | some m => stop 1 ("incompatible join fields ".toList ++ Text.ofNat n ++ ", ".toList ++ Text.ofNat m)
    | none => return n

def styleGiven (g : Given) : ShellM Style := do
  let sides ← (g.options.filter fun o => o.1 == 'a' || o.1 == 'v').mapM fun (_, v) => do
    if v = ['1'] then return false
    else if v = ['2'] then return true
    else stop 1 ("invalid field number: ".toList ++ quoted v)
  let fillers := (g.options.filter (·.1 == 'e')).map Prod.snd
  if fillers.any (some · != fillers.head?) then
    stop 1 "conflicting empty-field replacement strings".toList
  let separators ← (g.options.filter (·.1 == 't')).mapM fun o => separatorGiven o.2
  if separators.any (some · != separators.head?) then stop 1 "incompatible tabs".toList
  let formats := (g.options.filter (·.1 == 'o')).map Prod.snd
  let automatic := formats.getLast? == some "auto".toList
  let places ← (formats.filter (· != "auto".toList)).mapM placesGiven
  let firstField ← joinField g '1'
  let secondField ← joinField g '2'
  return {
    separator := separators.headD .blanks, ignoresCase := g.has 'i', firstField, secondField, pairs := !g.has 'v'
    lonelyFirst := sides.contains false, lonelySecond := sides.contains true, places := places.flatten
    automatic, filler := fillers.headD [], hasHeaders := g.has '\x01'
    order := match g.last? "\x02\x03" with
      | some '\x02' => .required
      | some _ => .ignored
      | none => .usual
    stop := if g.has 'z' then '\x00' else '\n' }

def linesOfFile (s : Style) (name : Octets) : ShellM (List Octets) := do
  match ← readOperand name with
  | .ok o =>
    let (lines, rest) := wholeLines s.stop o
    return lines.map Prod.fst ++ if rest = [] then [] else [rest]
  | .error e =>
    if e = .isDirectory ∨ name = ['-'] then stop 1 ("read error: ".toList ++ e.wording.toList)
    else stop 1 (reason name e)

/-- Further places may stand behind those that an option gives. -/
def operandsOf (g : Given) : Option (Octets × Octets) × List Octets :=
  match g.operands.reverse with
  | b :: a :: before => (some (a, b), before.reverse)
  | few => (none, few.reverse)

def join : Utility := fun _ args => do
  let g ← given (forms [('i', "ignore-case"), ('z', "zero-terminated"), ('\x01', "header"), ('\x02', "check-order"),
    ('\x03', "nocheck-order")] [('a', ""), ('e', ""), ('j', ""), ('o', ""), ('t', ""), ('v', ""), ('1', ""), ('2', "")]) args
  let s ← styleGiven g
  match operandsOf g with
  | (none, []) => misuse 1 "missing operand".toList
  | (none, a :: _) => misuse 1 ("missing operand after ".toList ++ quoted a)
  | (some (a, b), extra) =>
    let s ← match extra with
      | [] => pure s
      | _ =>
        if g.has 'o' && extra.all fun t => t.head?.any Char.isDigit then do
          let places ← extra.mapM placesGiven
          pure { s with places := s.places ++ places.flatten }
        else misuse 1 ("extra operand ".toList ++ quoted b)
    if a = ['-'] ∧ b = ['-'] then stop 1 "both files cannot be standard input".toList
    let xs ← linesOfFile s a
    let ys ← linesOfFile s b
    let _ ← (joinSides s).run { first := { name := a, rest := xs }, second := { name := b, rest := ys } }
    return 0

end Joining

end KarelBuild.Shell.Utility
