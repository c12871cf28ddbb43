import KarelBuild.Toml.Quoted

/-!
# Keys

A key is a chain of names with points between them. A name is bare or stands in quotes.
-/

namespace KarelBuild.Toml

/-- A chain of at least one name. -/
structure Key where
  first : Text
  rest : List Text
  deriving DecidableEq, Repr

namespace Key

def names (k : Key) : List Text := k.first :: k.rest

/-- A longer chain is refused. -/
def maxNames : Nat := 79

def isBare (c : Char) : Bool :=
  c.isDigit || ('a' ≤ c && c ≤ 'z') || ('A' ≤ c && c ≤ 'Z') || c == '-' || c == '_'

def skipBlanks (s : Text) : Text := s.dropWhile Quotes.isBlank

theorem skipBlanks_length (s : Text) : (skipBlanks s).length ≤ s.length :=
  dropWhile_length Quotes.isBlank s

def bare? (s : Text) : Option (Text × Rest s) :=
  match s with
  | [] => none
  | c :: r =>
    let behind : Rest (c :: r) := ⟨r, Nat.lt_succ_self _⟩
    if isBare c then some (c :: r.takeWhile isBare, behind.skip (·.dropWhile isBare) (dropWhile_length isBare)) else none

def name? (s : Text) : Option (Text × Rest s) := (Quoted.readLine? s).or (bare? s)

/-- A name with blanks around it. -/
def spaced? (s : Text) : Option (Text × Rest s) :=
  (name? (skipBlanks s)).map fun (n, rest) =>
    (n, (rest.skip skipBlanks skipBlanks_length).widen (skipBlanks_length s))

def chain? (s : Text) : Option (Key × Rest s) :=
  match spaced? s with
  | none => none
  | some (n, rest) =>
    match h : rest.text with
    | '.' :: r =>
      (chain? r).map fun (k, more) => (⟨n, k.names⟩, more.widen (Nat.le_of_lt (rest.tail_length h)))
    | _ => some (⟨n, []⟩, rest)
termination_by s.length
decreasing_by exact rest.tail_length h

def read? (s : Text) : Option (Key × Rest s) :=
  (chain? s).filter fun (k, _) => k.names.length ≤ maxNames

end Key

end KarelBuild.Toml
