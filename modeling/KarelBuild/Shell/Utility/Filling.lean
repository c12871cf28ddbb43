import KarelBuild.Shell.Utility.Streams

/-!
# Filled paragraphs

`fmt` breaks the lines of paragraphs anew. Each way to break them has a price: lines should be about as long as
is wished, as long as the lines behind them, and end where a sentence does. The cheapest way is found from the
last word back to the first.
-/

namespace KarelBuild.Shell.Utility

open ShellM

namespace Filling

structure Style where
  crown : Bool := false
  tagged : Bool := false
  splits : Bool := false
  uniform : Bool := false
  most : Nat := 75
  goal : Nat := 70
  /-- What lines have to begin with: blanks in front of it, itself, and its length with blanks behind it. -/
  leadSpace : Nat := 0
  lead : Octets := []
  leadLength : Nat := 0

/-! ## Lines and words -/

def tabWidth : Nat := 8

/-- Blanks in front of a text: the column behind them, whether there is a tab among them, and what follows. -/
def skipSpace : (column : Nat) → (hasTab : Bool) → Octets → Nat × Bool × Octets
  | column, hasTab, ' ' :: r => skipSpace (column + 1) hasTab r
  | column, _, '\t' :: r => skipSpace ((column / tabWidth + 1) * tabWidth) true r
  | column, hasTab, r => (column, hasTab, r)

/-- How a line begins: the column of what it has to begin with, the column of what follows, and that. -/
structure Opening where
  indent : Nat := 0
  column : Nat := 0
  rest : Octets := []
  ended : Bool := false
  hasTab : Bool := false

def openingOf (s : Style) (line : Octets) (ended : Bool) : Opening :=
  let (column, hasTab, rest) := skipSpace 0 false line
  if s.lead = [] then { indent := min s.leadSpace column, column, rest, ended, hasTab }
  else
    let shared := (s.lead.zip rest).takeWhile fun (a, b) => a == b
    let behind := rest.drop shared.length
    let inside := column + shared.length
    if shared.length < s.lead.length then { indent := column, column := inside, rest := behind, ended, hasTab }
    else
      let (last, hasTab, rest) := skipSpace inside hasTab behind
      { indent := column, column := last, rest, ended, hasTab }

/-- A word, the blanks behind it, and what it begins and ends with: a bracket, a punctuation mark, the end of a
sentence, for certain or maybe. -/
structure FilledWord where
  text : Octets
  length : Nat
  space : Nat
  opens : Bool
  punctuated : Bool
  period : Bool
  final : Bool

def isSpace (c : Char) : Bool := " \t\n\x0b\x0c\r".toList.contains c

def isPunctuation (c : Char) : Bool := '!' ≤ c && c ≤ '~' && !c.isAlphanum

/-- A word that is followed by so many blanks, and maybe by the end of the line or of everything. -/
def wordOf (s : Style) (text : Octets) (space : Nat) (endsLine endsAll : Bool) : FilledWord :=
  let back := text.reverse
  let inner := (back.take (text.length - 1)).dropWhile fun c => ")]'\"".toList.contains c
  let mark := (inner.head?).getD (text.headD ' ')
  let period := ".?!".toList.contains mark
  let final := endsAll || (period && (endsLine || 1 < space))
  { text, length := text.length
    space := if endsLine || endsAll || s.uniform then (if final then 2 else 1) else space
    opens := "(['\x60\"".toList.contains (text.headD ' '), punctuated := isPunctuation (back.headD ' '), period, final }

/-- The words of a line from a column on, the last first; and whether there are tabs between them. -/
def wordsOf (s : Style) (ended : Bool) : (steps : Nat) → (column : Nat) → Octets → List FilledWord → Bool →
    List FilledWord × Bool
  | 0, _, _, back, hasTab => (back, hasTab)
  | _, _, [], back, hasTab => (back, hasTab)
  | n + 1, column, c :: r, back, hasTab =>
    let text := c :: r.takeWhile fun d => !isSpace d
    let column := column + text.length
    let (last, hasTab, rest) := skipSpace column hasTab (r.drop (text.length - 1))
    let w := wordOf s text (last - column) (rest = [] && ended) (rest = [] && !ended)
    wordsOf s ended n last rest (w :: back) hasTab

/-! ## Prices -/

def square (n : Int) : Int := n * n

/-- What a line costs that misses the length it should have by so much. -/
def shortCost (n : Int) : Int := square (n * 10)

def raggedCost (n : Int) : Int := shortCost n / 2

/-- What it costs to begin a line with the word of that number. -/
def startCost (words : Array FilledWord) (i : Nat) : Int :=
  let at? (k : Nat) : Option FilledWord := words[k]?
  let before : Int := match if i = 0 then none else at? (i - 1) with
    | none => 0
    | some w =>
      if w.period then (if w.final then -2500 else 360000)
      else if w.punctuated then -1600
      else if 1 < i ∧ (at? (i - 2)).any (·.final) then 40000 / ((w.length : Int) + 2)
      else 0
  let own : Int := match at? i with
    | some w => if w.opens then -1600 else if w.final then 22500 / ((w.length : Int) + 2) else 0
    | none => 0
  4900 + before + own

/-- The cheapest way to go on from a word: what it costs, the first word of the next line, and how long the line
is. -/
structure Choice where
  cost : Int := 0
  next : Nat := 0
  length : Nat := 0

/-- Where a line ends best that begins with a word and is so long up to word `w`. -/
def bestEnd (s : Style) (words : Array FilledWord) (choices : Array Choice) : (steps : Nat) →
    (w length : Nat) → (best : Option Choice) → Option Choice
  | 0, _, _, best => best
  | n + 1, w, length, best =>
    let behind := choices.getD w {}
    let cost : Int :=
      if w = words.size then 0
      else
        let short := shortCost ((s.goal : Int) - length)
        if behind.next = words.size then short else short + raggedCost ((length : Int) - behind.length)
    let total := cost + behind.cost
    let best := if best.all (total < ·.cost) then some ⟨total, w, length⟩ else best
    match words[w]? with
    | none => best
    | some word =>
      let length := length + ((words[w - 1]?).map (·.space)).getD 0 + word.length
      if length < s.most then bestEnd s words choices n (w + 1) length best else best

/-- The best choice for each word. -/
def choicesFor (s : Style) (words : Array FilledWord) (firstIndent otherIndent : Nat) : Array Choice :=
  (List.range words.size).foldr (fun start choices =>
    let indent := if start = 0 then firstIndent else otherIndent
    let length := indent + ((words[start]?).map (·.length)).getD 0
    match bestEnd s words choices (words.size + 1) (start + 1) length none with
    | some c => choices.set! start { c with cost := c.cost + startCost words start }
    | none => choices) (Array.replicate (words.size + 1) {})

/-! ## Output -/

/-- Text up to a column. -/
structure Row where
  back : List Octets := []
  column : Nat := 0

def Row.put (r : Row) (o : Octets) : Row := ⟨o :: r.back, r.column + o.length⟩

/-- Blanks, in the place of which tabs may stand if the input has some. -/
def Row.space (r : Row) (tabs : Bool) (count : Nat) : Row :=
  let target := r.column + count
  let tabTarget := target / tabWidth * tabWidth
  let usesTabs := tabs && r.column + 1 < tabTarget
  let marks := if usesTabs then tabTarget / tabWidth - r.column / tabWidth else 0
  let column := if usesTabs then tabTarget else r.column
  ⟨(List.replicate marks '\t' ++ List.replicate (target - column) ' ') :: r.back, max target r.column⟩

def Row.text (r : Row) : Octets := r.back.reverse.flatten

/-- A line of words from one up to another. -/
def lineText (s : Style) (tabs : Bool) (leadIndent indent : Nat) (words : List FilledWord) : Octets :=
  let r : Row := ((({} : Row).space tabs leadIndent).put s.lead)
  let r := r.space tabs (indent - r.column)
  let last := words.length - 1
  let r := words.zipIdx.foldl (fun (r : Row) (w, i) =>
    let r := r.put w.text
    if i = last then r else r.space tabs w.space) r
  r.text ++ ['\n']

def paragraphText (s : Style) (tabs : Bool) (leadIndent firstIndent otherIndent : Nat) (words : Array FilledWord) :
    Octets :=
  let choices := choicesFor s words firstIndent otherIndent
  go choices (words.size + 1) 0
where
  go (choices : Array Choice) : (steps : Nat) → Nat → Octets
    | 0, _ => []
    | n + 1, i =>
      if words.size ≤ i then []
      else
        let next := (choices.getD i {}).next
        let indent := if i = 0 then firstIndent else otherIndent
        lineText s tabs leadIndent indent (words.extract i next).toList ++ go choices n next

/-! ## Paragraphs -/

/-- Where going through a text stands: the lines that are left, how the first of them begins, whether tabs have
been seen, and by how much the last paragraph was indented behind its first line. -/
structure Progress where
  rest : List (Octets × Bool)
  opening : Opening
  tabs : Bool := false
  otherIndent : Nat := 0

/-- Go on to the next line; behind the last one there is an empty one without an end. -/
def Progress.next (s : Style) (p : Progress) : Progress :=
  match p.rest with
  | (line, ended) :: rest =>
    let o := openingOf s line ended
    { p with rest, opening := o, tabs := p.tabs || o.hasTab }
  | [] => { p with opening := {} }

/-- Whether the line at hand can belong to a paragraph. -/
def isFillable (s : Style) (o : Opening) : Bool :=
  !o.rest.isEmpty && s.leadSpace ≤ o.indent && o.indent + s.leadLength ≤ o.column

/-- A line that is kept as it is. -/
def copiedText (s : Style) (tabs : Bool) (o : Opening) : Octets :=
  if o.indent < o.column ∨ o.rest ≠ [] then
    let r := ({} : Row).space tabs o.indent
    let r := r.put (s.lead.take (o.column - r.column))
    let r := if o.rest ≠ [] then r.space tabs (o.column - r.column) else r
    let lineEnd := if o.rest = [] ∧ !o.ended ∧ o.indent + s.lead.length ≤ o.column then ['\n'] else []
    r.text ++ lineEnd ++ o.rest
  else []

/-- Take the words of the line at hand, and go on to the next line. -/
def takeWords (s : Style) (p : Progress) (back : List FilledWord) : Progress × List FilledWord :=
  let o := p.opening
  let (back, hasTab) := wordsOf s o.ended (o.rest.length + 1) o.column o.rest back p.tabs
  (Progress.next s { p with tabs := hasTab }, back)

/-- Whether the line at hand goes on with a paragraph of that indentation. -/
def goesOn (s : Style) (leadIndent : Nat) (o : Opening) : Bool :=
  o.indent == leadIndent && o.indent + s.leadLength ≤ o.column && !o.rest.isEmpty

/-- Take lines as long as they go on and are indented alike. -/
def takeLines (s : Style) (leadIndent : Nat) : (steps : Nat) → Progress → List FilledWord →
    Progress × List FilledWord
  | 0, p, back => (p, back)
  | n + 1, p, back =>
    if goesOn s leadIndent p.opening ∧ p.opening.column = p.otherIndent then
      let (p, back) := takeWords s p back
      takeLines s leadIndent n p back
    else (p, back)

/-- By how much the lines behind the first one of a paragraph are indented. -/
def indentBehind (s : Style) (firstIndent : Nat) (same : Bool) (p : Progress) : Nat :=
  if s.splits then firstIndent
  else if s.crown then (if same then p.opening.column else firstIndent)
  else if s.tagged then
    if same ∧ p.opening.column ≠ firstIndent then p.opening.column
    else if p.otherIndent = firstIndent then (if firstIndent = 0 then 3 else 0)
    else p.otherIndent
  else firstIndent

/-- The text of the paragraph that begins with the line at hand. -/
def takeParagraph (s : Style) (p : Progress) : Progress × Octets :=
  let leadIndent := p.opening.indent
  let firstIndent := p.opening.column
  let (p, back) := takeWords s p []
  let same := goesOn s leadIndent p.opening
  let p := { p with otherIndent := indentBehind s firstIndent same p }
  let steps := p.rest.length + 2
  let (p, back) :=
    if s.splits then (p, back)
    else if (s.crown ∧ same) ∨ (!s.crown ∧ s.tagged ∧ same ∧ p.opening.column ≠ firstIndent) then
      let (p, back) := takeWords s p back
      takeLines s leadIndent steps p back
    else if s.crown ∨ s.tagged then (p, back)
    else takeLines s leadIndent steps p back
  let back := match back with
    | w :: rest => { w with period := true, final := true } :: rest
    | [] => []
  (p, paragraphText s p.tabs leadIndent firstIndent p.otherIndent back.reverse.toArray)

def fillFrom (s : Style) : (steps : Nat) → Progress → (back : List Octets) → List Octets
  | 0, _, back => back
  | n + 1, p, back =>
    if isFillable s p.opening then
      let (p, o) := takeParagraph s p
      fillFrom s n p (o :: back)
    else
      let o := copiedText s p.tabs p.opening
      if !p.opening.ended then o :: back
      else fillFrom s n (p.next s) ((o ++ ['\n']) :: back)

def fill (s : Style) (o : Octets) : Octets :=
  let (lines, rest) := wholeLines '\n' o
  let lines := lines ++ if rest = [] then [] else [(rest, false)]
  (fillFrom s (2 * lines.length + 3) (Progress.next s { rest := lines, opening := {} }) []).reverse.flatten

/-! ## The utility -/

/-- The width that a value stands for. -/
def widthOf (most : Nat) (v : Octets) : ShellM Nat := do
  let wrong (behind : String) : ShellM Nat := stop 1 ("invalid width: ".toList ++ quoted v ++ behind.toList)
  if !isNumber v then wrong ""
  else if most < digitsValue v then wrong ": Numerical result out of range"
  else return digitsValue v

def fmt : Utility := fun _ args => do
  let (old, args) : Option Octets × List Octets := match args with
    | ('-' :: c :: ds) :: rest => if c.isDigit then (some (c :: ds), rest) else (none, args)
    | args => (none, args)
  let digits := "0123456789".toList.map fun c => (c, "")
  let g ← given (forms ([('c', "crown-margin"), ('s', "split-only"), ('t', "tagged-paragraph"),
    ('u', "uniform-spacing")] ++ digits) [('w', "width"), ('g', "goal"), ('p', "prefix")]) args
  match g.options.find? (·.1.isDigit) with
  | some (c, _) =>
    misuse 1 ("invalid option -- ".toList ++ c ::
      "; -WIDTH is recognized only when it is the first\noption; use -w N instead".toList)
  | none => pure ()
  let most ← match g.value? 'w', old with
    | some v, _ => some <$> widthOf 2500 v
    | none, some v => some <$> widthOf 2500 v
    | none, none => pure none
  let goal ← match g.value? 'g' with
    | some v => some <$> widthOf (most.getD 75) v
    | none => pure none
  let width := match most, goal with
    | some m, _ => m
    | none, some k => k + 10
    | none, none => 75
  let lead := (g.value? 'p').getD []
  let body := lead.dropWhile (· == ' ')
  let s : Style := {
    crown := g.has 'c', tagged := g.has 't', splits := g.has 's', uniform := g.has 'u', most := width
    goal := goal.getD (width * 187 / 200), leadSpace := lead.length - body.length
    lead := (body.reverse.dropWhile (· == ' ')).reverse, leadLength := body.length }
  let mut code := 0
  for name in if g.operands = [] then [['-']] else g.operands do
    match ← openOperand name with
    | .error e =>
      grumble ("cannot open ".toList ++ quoted name ++ " for reading: ".toList ++ e.wording.toList)
      code := 1
    | .ok n =>
      match ← takeAll n with
      | .ok (.text o) => emit (fill s o)
      | .ok (.endless _) => pure ()
      | .error _ =>
        grumble "read error".toList
        code := 1
  return code

end Filling

end KarelBuild.Shell.Utility
