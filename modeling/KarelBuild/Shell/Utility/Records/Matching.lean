import KarelBuild.Shell.Reading.Word
import KarelBuild.Shell.Regex.Reading
import KarelBuild.Text.Utf8

/-!
# Expressions in programs for records

These expressions are extended ones without bounds between braces and without groups that could be asked for.
A backslash gives characters by letters and numbers, between brackets too.
-/

namespace KarelBuild.Shell.Records

/-- Characters that are written by a letter behind a backslash. -/
def letterEscapes : List (Char × Char) :=
  [('a', '\x07'), ('b', '\x08'), ('f', '\x0c'), ('n', '\n'), ('r', '\r'), ('t', '\t'), ('v', '\x0b')]

/-- The character that letters or digits behind a backslash stand for, and what follows. -/
def escapedChar? (t : Octets) : Option (Char × Octets) :=
  match t with
  | [] => none
  | c :: r =>
    if isOctalDigit c then
      let ds := (t.take 3).takeWhile isOctalDigit
      some (byteOf 8 ds, t.drop ds.length)
    else if c = 'x' then
      let ds := (r.take 2).takeWhile isHexDigit
      if ds = [] then none else some (byteOf 16 ds, r.drop ds.length)
    else (letterEscapes.lookup c).map fun d => (d, r)

/-- Characters of a string, escapes undone; a backslash that means nothing stays. -/
def unescaped : (steps : Nat) → Octets → Octets
  | 0, t => t
  | _, [] => []
  | n + 1, '\\' :: r =>
    match r with
    | '"' :: r' => '"' :: unescaped n r'
    | '\\' :: r' => '\\' :: unescaped n r'
    | '\n' :: r' => unescaped n r'
    | _ =>
      match escapedChar? r with
      | some (d, r') => d :: unescaped n r'
      | none => '\\' :: unescaped n r
  | n + 1, c :: r => c :: unescaped n r

def plainText (t : Octets) : Octets := unescaped (t.length + 1) t

/-- The characters between brackets with backslashes undone, and what follows the closing one. -/
def bracketList : (steps : Nat) → (first : Bool) → Octets → Option (List Listed × Octets)
  | 0, _, _ => none
  | _, _, [] => none
  | n + 1, first, c :: r =>
    if c = ']' ∧ !first then some ([], r)
    else
      let named : Option (Listed × Octets) := match c, r with
        | '[', ':' :: r' =>
          let name := r'.takeWhile (· != ':')
          match charClass? name, r'.drop name.length with
          | some p, ':' :: ']' :: rest => some (.kind p, rest)
          | _, _ => none
        | _, _ => none
      let put (l : Listed) (rest : Octets) : Option (List Listed × Octets) :=
        (bracketList n false rest).map fun (ls, rest) => (l :: ls, rest)
      match named with
      | some (l, rest) => put l rest
      | none =>
        let (low, rest) := single c r
        match rest with
        | '-' :: e :: r' =>
          if e = ']' then put (.range low low) rest
          else
            let (high, rest') := single e r'
            put (.range low high) rest'
        | _ => put (.range low low) rest
where
  /-- A single character, which may be written behind a backslash. -/
  single (c : Char) (r : Octets) : Char × Octets :=
    if c = '\\' then
      match escapedChar? r, r with
      | some found, _ => found
      | none, d :: r' => (d, r')
      | none, [] => (c, r)
    else (c, r)

/-- What is left of an expression, and how many groups are open. -/
structure Unread where
  rest : Octets
  depth : Nat := 0

abbrev ReadPattern := EStateM String Unread

section

variable (deeper : ReadPattern Regex)

def missingOperand : String := "missing operand"

def bracketed : ReadPattern Regex := do
  let s ← get
  let negated := s.rest.head? == some '^'
  let t := if negated then s.rest.drop 1 else s.rest
  match bracketList (t.length + 1) true t with
  | none => throw "bad class -- [], [^] or ["
  | some (ls, rest) =>
    set { s with rest }
    return .char fun c => ls.any (·.holds c) != negated

/-- A piece that can be repeated. -/
def piece : ReadPattern Regex := do
  let s ← get
  match s.rest with
  | [] => throw missingOperand
  | c :: r =>
    set { s with rest := r }
    match c with
    | '.' => return .char fun _ => true
    | '^' => return .textStart
    | '$' => return .textEnd
    | '[' => bracketed
    | '(' =>
      set { s with rest := r, depth := s.depth + 1 }
      let e ← deeper
      match (← get).rest with
      | ')' :: r' =>
        set { s with rest := r' }
        return e
      | _ => throw "missing ')'"
    | '\\' =>
      match escapedChar? r, r with
      | some (d, r'), _ =>
        set { s with rest := r' }
        return .char (· == d)
      | none, d :: r' =>
        set { s with rest := r' }
        return .char (· == d)
      | none, [] => return .char (· == '\\')
    | c =>
      if c = '*' ∨ c = '+' ∨ c = '?' ∨ c = '|' then throw missingOperand
      else return .char (· == c)

def repeats : (steps : Nat) → Regex → ReadPattern Regex
  | 0, r => return r
  | n + 1, r => do
    let s ← get
    let take (low : Nat) (high : Option Nat) : ReadPattern Regex := do
      set { s with rest := s.rest.drop 1 }
      repeats n (.repeated r low high)
    match s.rest with
    | '*' :: _ => take 0 none
    | '+' :: _ => take 1 none
    | '?' :: _ => take 0 (some 1)
    | _ => return r

/-- Whether the text is where pieces come to an end. -/
def isAtEnd (s : Unread) : Bool :=
  match s.rest with
  | [] => true
  | '|' :: _ => true
  | ')' :: _ => s.depth > 0
  | _ => false

def pieces : (steps : Nat) → ReadPattern Regex
  | 0 => return .empty
  | n + 1 => do
    let r ← repeats ((← get).rest.length + 1) (← piece deeper)
    if isAtEnd (← get) then return r else return .both r (← pieces n)

def alternatives : (steps : Nat) → ReadPattern Regex
  | 0 => return .empty
  | n + 1 => do
    let s ← get
    if s.rest = [] ∧ s.depth > 0 then throw "missing ')'"
    else if isAtEnd s then throw missingOperand
    let first ← pieces deeper ((← get).rest.length + 1)
    match (← get).rest with
    | '|' :: r =>
      modify fun s => { s with rest := r }
      return .either first (← alternatives n)
    | _ => return first

end

def patternFrom : (depth : Nat) → ReadPattern Regex
  | 0 => throw "missing ')'"
  | n + 1 => do alternatives (patternFrom n) ((← get).rest.length + 1)

/-- Read an expression; the empty one matches everywhere. -/
def patternOf? (t : Octets) : Except String Regex :=
  if t = [] then .ok .empty
  else match patternFrom (t.length + 1) { rest := t } with
    | .ok r _ => .ok r
    | .error e _ => .error e

end KarelBuild.Shell.Records
