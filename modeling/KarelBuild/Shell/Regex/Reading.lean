import KarelBuild.Shell.Regex

/-!
# Reading regular expressions

There are two forms. In the basic one parentheses, braces, bars, `+` and `?` are marks behind a
backslash; in the extended one they are marks without it. A star in front of everything it could
repeat stands for itself.
-/

namespace KarelBuild.Shell.Regex

/-- What reading keeps track of: the form, whether case counts, and how many groups were opened. -/
structure Source where
  extended : Bool
  ignoresCase : Bool := false
  /-- Whether what makes no sense is passed over: braces that hold no bounds stand for themselves, and
repetitions of nothing are left out, with a remark. -/
  lenient : Bool := false
  /-- Whether the marks for the ends of the text stand for those of lines. -/
  multiline : Bool := false
  /-- Whether only an end of a line that is meant matches one. -/
  withinLines : Bool := false
  remarks : List String := []
  rest : Text
  opened : Nat := 0
  depth : Nat := 0

abbrev ReadRegex := EStateM String Source

def otherCase (c : Char) : Char := if c.isUpper then c.toLower else c.toUpper

/-- The test for a character, which may ignore case. -/
def testFor (p : Char → Bool) : ReadRegex Regex := do
  if (← get).ignoresCase then return .char fun c => p c || p (otherCase c) else return .char p

def literal (c : Char) : ReadRegex Regex := testFor (· == c)

/-! ## Lists between brackets -/

/-- What stands between brackets, and what follows them. -/
def listedFrom : (steps : Nat) → (first : Bool) → Text → Except String (List Listed × Text)
  | 0, _, _ => .error "Unmatched [, [^, [:, [., or [="
  | _, _, [] => .error "Unmatched [, [^, [:, [., or [="
  | n + 1, first, c :: r =>
    if c = ']' ∧ !first then .ok ([], r)
    else match c, r with
      | '[', ':' :: r' =>
        let name := r'.takeWhile (· != ':')
        match charClass? name, r'.drop name.length with
        | some p, ':' :: ']' :: rest => do
          let (ls, rest) ← listedFrom n false rest
          return (.kind p :: ls, rest)
        | none, ':' :: ']' :: _ => .error "Invalid character class name"
        | _, _ => .error "Unmatched [, [^, [:, [., or [="
      | '[', '.' :: d :: '.' :: ']' :: rest => do
        let (ls, rest) ← listedFrom n false rest
        return (.range d d :: ls, rest)
      | '[', '=' :: d :: '=' :: ']' :: rest => do
        let (ls, rest) ← listedFrom n false rest
        return (.range d d :: ls, rest)
      | _, '-' :: e :: r' =>
        if e = ']' then do
          let (ls, rest) ← listedFrom n false r
          return (.range c c :: ls, rest)
        else if e < c then .error "Invalid range end"
        else do
          let (ls, rest) ← listedFrom n false r'
          return (.range c e :: ls, rest)
      | _, _ => do
        let (ls, rest) ← listedFrom n false r
        return (.range c c :: ls, rest)

/-- Whether the brackets look as if a class of characters was meant, which needs two pairs of them. -/
def namesClass (t : Text) : Bool :=
  match t.takeWhile (· != ']') with
  | ':' :: r => r.length > 0 && r.getLast? == some ':'
  | _ => false

def bracketTest : ReadRegex Regex := do
  let s ← get
  let negated := s.rest.head? = some '^'
  let t := if negated then s.rest.drop 1 else s.rest
  if t = [] then throw "Invalid regular expression"
  if s.lenient ∧ !negated ∧ namesClass t then throw "character class syntax is [[:space:]], not [:space:]"
  match listedFrom (t.length + 1) true t with
  | .error e => throw e
  | .ok (ls, rest) =>
    set { s with rest }
    let ignoresCase := s.ignoresCase
    let excludesEnds := negated && s.withinLines
    return .char fun c =>
      let listed (d : Char) : Bool := ls.any (·.holds d)
      ((listed c || (ignoresCase && listed (otherCase c))) != negated) && !(excludesEnds && c == '\n')

/-! ## Repetitions -/

/-- How often something may occur. -/
structure Times where
  low : Nat
  high : Option Nat

/-- The bounds between braces. -/
def bounds : ReadRegex Times := do
  let s ← get
  let mark := if s.extended then ['\x7d'] else ['\\', '\x7d']
  let low := s.rest.takeWhile Char.isDigit
  let rest := s.rest.drop low.length
  let number (t : Text) : Nat := (String.ofList t).toNat?.getD 0
  let (high, rest) : Option (Option Nat) × Text := match rest with
    | ',' :: r =>
      let ds := r.takeWhile Char.isDigit
      (some (if ds = [] then none else some (number ds)), r.drop ds.length)
    | r => (none, r)
  if !mark.isPrefixOf rest then throw "Unmatched \\\x7b"
  else if low = [] ∧ high.isNone then throw "Invalid content of \\\x7b\\\x7d"
  else
    set { s with rest := rest.drop mark.length }
    let low := number low
    let high := high.getD (some low)
    if high.any (· < low) then throw "Invalid content of \\\x7b\\\x7d"
    else if high.any (32767 < ·) ∨ 32767 < low then throw "Regular expression too big"
    else return ⟨low, high⟩

/-- Whether what stands behind a brace is bounds. -/
def holdsBounds (t : Text) : Bool :=
  let low := t.takeWhile Char.isDigit
  match t.drop low.length with
  | ',' :: r => (r.dropWhile Char.isDigit).head? == some '\x7d'
  | r => low ≠ [] && r.head? == some '\x7d'

/-- The mark of a repetition that follows. -/
def repetition? : ReadRegex (Option Times) := do
  let s ← get
  let take (n : Nat) (t : Times) : ReadRegex (Option Times) := do
    set { s with rest := s.rest.drop n }
    return some t
  match s.extended, s.rest with
  | _, '*' :: _ => take 1 ⟨0, none⟩
  | true, '+' :: _ => take 1 ⟨1, none⟩
  | true, '?' :: _ => take 1 ⟨0, some 1⟩
  | true, '\x7b' :: r =>
    if holdsBounds r || (!s.lenient && r.head?.any fun c => c.isDigit || c == ',') then
      set { s with rest := r }
      return some (← bounds)
    else return none
  | false, '\\' :: '+' :: _ => take 2 ⟨1, none⟩
  | false, '\\' :: '?' :: _ => take 2 ⟨0, some 1⟩
  | false, '\\' :: '\x7b' :: r =>
    set { s with rest := r }
    return some (← bounds)
  | _, _ => return none

def repetitions : (steps : Nat) → Regex → ReadRegex Regex
  | 0, r => return r
  | n + 1, r => do
    match ← repetition? with
    | some t => repetitions n (.repeated r t.low t.high)
    | none => return r

/-! ## Expressions -/

/-- What a backslash and a character stand for, if it is no mark of a group. -/
def escaped (c : Char) : ReadRegex Regex := do
  let isSpace (c : Char) : Bool := c == ' ' || ('\t' ≤ c && c ≤ '\r')
  match c with
  | 'w' => return .char isWordChar
  | 'W' => return .char (!isWordChar ·)
  | 's' => return .char isSpace
  | 'S' => return .char (!isSpace ·)
  | 'b' => return .wordEdge
  | 'B' => return .insideWord
  | '<' => return .wordStart
  | '>' => return .wordEnd
  | '\x60' => return .textStart
  | '\'' => return .textEnd
  | 'n' => literal '\n'
  | c =>
    if '1' ≤ c ∧ c ≤ '9' then
      let n := c.toNat - 48
      if (← get).opened < n then throw "Invalid back reference" else return .again n
    else literal c

/-- Whether the text is at a mark: that of a group's end, or of an alternative. -/
def isMark (extended : Bool) (mark : Char) (t : Text) : Bool :=
  if extended then t.head? == some mark else ['\\', mark].isPrefixOf t

def takeMark : ReadRegex Unit :=
  modify fun s => { s with rest := s.rest.drop (if s.extended then 1 else 2) }

section

variable (deeper : ReadRegex Regex)

/-- An expression between the marks of a group. -/
def grouped : ReadRegex Regex := do
  let n := (← get).opened + 1
  takeMark
  modify fun s => { s with opened := n, depth := s.depth + 1 }
  let r ← deeper
  if isMark (← get).extended ')' (← get).rest then
    takeMark
    modify fun s => { s with depth := s.depth - 1 }
    return .group n r
  else throw "Unmatched ( or \\("

/-- A single piece; `first` where nothing stands before it. -/
def piece (first : Bool) : ReadRegex Regex := do
  let s ← get
  if isMark s.extended '(' s.rest then grouped deeper
  else match s.rest with
    | [] => return .empty
    | c :: r =>
      set { s with rest := r }
      match c with
      | '.' => return if s.withinLines then .char (· != '\n') else .char fun _ => true
      | '[' => bracketTest
      | '^' => if s.extended || first then return (if s.multiline then .lineStart else .textStart) else literal c
      | '$' =>
        if s.extended || r.isEmpty || isMark false ')' r || isMark false '|' r then
          return if s.multiline then .lineEnd else .textEnd
        else literal c
      | '\\' =>
        match r with
        | [] => throw "Trailing backslash"
        | d :: r' =>
          set { s with rest := r' }
          escaped d
      | c => literal c

def isAnchor : Regex → Bool
  | .textStart => true
  | .textEnd => true
  | .lineStart => true
  | .lineEnd => true
  | _ => false

/-- The mark of a repetition in front of which there is nothing to be repeated. -/
def strayMark? (s : Source) : Option String :=
  match s.extended, s.rest with
  | true, '*' :: _ => some "*"
  | true, '+' :: _ => some "+"
  | true, '?' :: _ => some "?"
  | true, '\x7b' :: r => if holdsBounds r then some "\x7b...\x7d" else none
  | _, _ => none

/-- Pass over a repetition of nothing. -/
def passStray (mark : String) : ReadRegex Unit := do
  if (← get).lenient then
    modify fun s => { s with remarks := s.remarks ++ [mark ++ " at start of expression"] }
    let _ ← repetition?
  else throw "Invalid preceding regular expression"

/-- Pieces one after another, up to a mark that ends them. -/
def pieces : (steps : Nat) → (first : Bool) → ReadRegex Regex
  | 0, _ => return .empty
  | n + 1, first => do
    let s ← get
    if s.rest = [] ∨ isMark s.extended '|' s.rest then return .empty
    else if isMark s.extended ')' s.rest ∧ (s.depth > 0 ∨ !s.extended) then return .empty
    else match first, strayMark? s with
      | true, some mark => do
        passStray mark
        pieces n true
      | _, _ => do
        let r ← if first && s.rest.head? == some '*' then do
            set { s with rest := s.rest.drop 1 }
            literal '*'
          else piece deeper first
        let anchor := isAnchor r && (s.extended || r matches .textStart || r matches .lineStart)
        let r ← if anchor then pure r else repetitions (s.rest.length + 1) r
        return .both r (← pieces n anchor)

/-- Alternatives. -/
def alternatives : (steps : Nat) → ReadRegex Regex
  | 0 => return .empty
  | n + 1 => do
    let first ← pieces deeper ((← get).rest.length + 1) true
    if isMark (← get).extended '|' (← get).rest then
      takeMark
      return .either first (← alternatives n)
    else return first

end

/-- An expression whose groups nest at most `depth` deep. -/
def expression : (depth : Nat) → ReadRegex Regex
  | 0 => throw "Unmatched ( or \\("
  | n + 1 => do alternatives (expression n) ((← get).rest.length + 1)

/-- Read the whole of a source as an expression. Gives it with the remarks on it. -/
def ofSource? (source : Source) : Except String (Regex × List String) :=
  match expression (source.rest.length + 1) source with
  | .ok r s => if s.rest = [] then .ok (r, s.remarks) else .error "Unmatched ) or \\)"
  | .error e _ => .error e

def ofText? (extended ignoresCase : Bool) (t : Text) : Except String Regex :=
  (ofSource? { extended, ignoresCase, rest := t }).map Prod.fst

/-- An expression in which plus and question signs repeat, written as one in which they do so behind a
backslash. -/
def withPlainRepeats : (inBrackets : Bool) → Text → Text
  | _, [] => []
  | true, c :: r => c :: withPlainRepeats (c != ']') r
  | false, '\\' :: c :: r =>
    if c = '+' ∨ c = '?' ∨ c = '\x7b' ∨ c = '\x7d' then c :: withPlainRepeats false r
    else '\\' :: c :: withPlainRepeats false r
  | false, '[' :: ']' :: r => '[' :: ']' :: withPlainRepeats true r
  | false, '[' :: '^' :: ']' :: r => '[' :: '^' :: ']' :: withPlainRepeats true r
  | false, c :: r =>
    if c = '+' ∨ c = '?' then '\\' :: c :: withPlainRepeats false r else c :: withPlainRepeats (c == '[') r

/-- An expression that matches just a text. -/
def ofLiteral (ignoresCase : Bool) (t : Text) : Regex :=
  t.foldr (fun c r => .both (.char fun d => d == c || (ignoresCase && otherCase d == c)) r) .empty

end KarelBuild.Shell.Regex
