import KarelBuild.Shell.Pattern

/-!
# Regular expressions

An expression is matched from a place in a text, with what stands before it kept for the marks that
look there. Repetitions take as much as they can and give back what the rest needs, or as little as they can
and more as the rest needs it; of alternatives the one with the longer match counts, or the first with which
the rest matches. Groups note where they matched.
-/

namespace KarelBuild.Shell

inductive Regex where
  | empty
  | char (p : Char → Bool)
  | textStart
  | textEnd
  | lineStart
  | lineEnd
  /-- Where a word begins, where it ends, or where it does either. -/
  | wordStart
  | wordEnd
  | wordEdge
  | insideWord
  /-- Where no character of a word stands before, or none behind. -/
  | offWordLeft
  | offWordRight
  | both (a b : Regex)
  | either (a b : Regex)
  | group (n : Nat) (r : Regex)
  | again (n : Nat)
  | repeated (r : Regex) (low : Nat) (high : Option Nat)
  /-- Alternatives that are tried one after another. -/
  | prefer (a b : Regex)
  /-- A repetition that takes as little as it can. -/
  | sparing (r : Regex) (low : Nat) (high : Option Nat)
  /-- A match that is not tried in other ways. -/
  | settled (r : Regex)
  /-- Whether an expression matches, or does not, what follows. -/
  | ahead (positive : Bool) (r : Regex)
  /-- Whether an expression matches, or does not, so many characters that stand before. -/
  | behind (positive : Bool) (width : Nat) (r : Regex)
  /-- What was matched so far does not belong to the match. -/
  | beginHere

namespace Regex

/-! ## Matching -/

/-- A place in a text: the character before it, what follows, and how much stands before; the text itself, and
where the match begins if it does not begin where the search did. -/
structure Cursor where
  before : Option Char
  rest : Text
  index : Nat
  groups : List (Nat × Nat × Text)
  whole : Text
  begins : Option Nat

abbrev Continue := Cursor → Option Cursor

def isWordChar (c : Char) : Bool := c.isAlphanum || c == '_'

namespace Cursor

/-- The place in front of a text that follows a character. -/
def ofText (before : Option Char) (t : Text) : Cursor := ⟨before, t, 0, [], t, none⟩

def next (c : Cursor) : Option (Char × Cursor) :=
  match c.rest with
  | [] => none
  | d :: r => some (d, { c with before := some d, rest := r, index := c.index + 1 })

def afterWord (c : Cursor) : Bool := c.before.any isWordChar

def beforeWord (c : Cursor) : Bool := c.rest.head?.any isWordChar

/-- Go over a number of characters. -/
def skip (c : Cursor) (n : Nat) : Cursor :=
  if n = 0 then c
  else { c with before := (c.rest.drop (n - 1)).head?, rest := c.rest.drop n, index := c.index + n }

/-- The place so many characters before, if there are so many. -/
def backBy? (c : Cursor) (n : Nat) : Option Cursor :=
  if c.index < n then none
  else
    let index := c.index - n
    let rest := c.whole.drop index
    if rest.length < n then none
    else
      let before := if index = 0 then none else (c.whole.drop (index - 1)).head?
      some { c with before, rest, index }

def groupText (c : Cursor) (n : Nat) : Text :=
  match c.groups.lookup n with
  | some (_, o) => o
  | none => []

end Cursor

def later : Option Cursor → Option Cursor → Option Cursor
  | some a, some b => if a.index < b.index then some b else some a
  | some a, none => some a
  | none, b => b

/-- How many characters in front hold, at most `limit`. -/
def countFront (p : Char → Bool) (limit : Option Nat) : Nat → Text → Nat
  | n, [] => n
  | n, c :: r => if limit = some n then n else if p c then countFront p limit (n + 1) r else n

/-- Try to go on behind `n` characters, then behind fewer, down to `low`. -/
def backOff (c : Cursor) (low : Nat) (k : Continue) : Nat → Option Cursor
  | 0 => if low = 0 then k c else none
  | n + 1 =>
    if n + 1 < low then none
    else match k (c.skip (n + 1)) with
      | some end_ => some end_
      | none => backOff c low k n

/-- Repeat what gets on; an empty round ends the repetition. -/
def rounds (once : Continue → Continue) (k : Continue) : (steps low : Nat) → Option Nat → Continue
  | 0, low, _ => fun c => if low = 0 then k c else none
  | n + 1, low, high => fun c =>
    if high = some 0 then k c
    else
      let more : Option Cursor := once
        (fun c' => if c'.index = c.index ∧ low = 0 then none
          else rounds once k n (low - 1) (high.map (· - 1)) c') c
      match more with
      | some end_ => some end_
      | none => if low = 0 then k c else none

/-- Go on, and repeat only if that fails. -/
def sparingRounds (once : Continue → Continue) (k : Continue) : (steps low : Nat) → Option Nat → Continue
  | 0, low, _ => fun c => if low = 0 then k c else none
  | n + 1, low, high => fun c =>
    let more (_ : Unit) : Option Cursor :=
      if high = some 0 then none
      else once
        (fun c' => if c'.index = c.index ∧ low = 0 then none
          else sparingRounds once k n (low - 1) (high.map (· - 1)) c') c
    if low > 0 then more ()
    else match k c with
      | some end_ => some end_
      | none => more ()

def run : Regex → Continue → Continue
  | empty, k => k
  | char p, k => fun c =>
    match c.next with
    | some (d, c) => if p d then k c else none
    | none => none
  | textStart, k => fun c => if c.before.isNone then k c else none
  | textEnd, k => fun c => if c.rest.isEmpty then k c else none
  | lineStart, k => fun c => if c.before.all (· == '\n') then k c else none
  | lineEnd, k => fun c => if c.rest.head?.all (· == '\n') then k c else none
  | wordStart, k => fun c => if !c.afterWord && c.beforeWord then k c else none
  | wordEnd, k => fun c => if c.afterWord && !c.beforeWord then k c else none
  | wordEdge, k => fun c => if c.afterWord != c.beforeWord then k c else none
  | insideWord, k => fun c => if c.afterWord == c.beforeWord then k c else none
  | offWordLeft, k => fun c => if c.afterWord then none else k c
  | offWordRight, k => fun c => if c.beforeWord then none else k c
  | both a b, k => a.run (b.run k)
  | either a b, k => fun c => later (a.run k c) (b.run k c)
  | group n r, k => fun c =>
    r.run (fun c' =>
      let o := c.rest.take (c'.index - c.index)
      k { c' with groups := (n, c.index, o) :: c'.groups }) c
  | again n, k => fun c =>
    match c.groups.lookup n with
    | some (_, o) => if o.isPrefixOf c.rest then k (c.skip o.length) else none
    | none => none
  | repeated (char p) low high, k => fun c => backOff c low k (countFront p high 0 c.rest)
  | repeated r low high, k => fun c =>
    rounds r.run k (c.rest.length + low + 1) low high c
  | prefer a b, k => fun c =>
    match a.run k c with
    | some end_ => some end_
    | none => b.run k c
  | sparing r low high, k => fun c => sparingRounds r.run k (c.rest.length + low + 1) low high c
  | settled r, k => fun c =>
    match r.run some c with
    | some c' => k c'
    | none => none
  | ahead positive r, k => fun c =>
    match r.run some c with
    | some c' => if positive then k { c with groups := c'.groups } else none
    | none => if positive then none else k c
  | behind positive width r, k => fun c =>
    let found := match c.backBy? width with
      | some start => r.run (fun c' => if c'.index = c.index then some c' else none) start
      | none => none
    match found with
    | some c' => if positive then k { c with groups := c'.groups } else none
    | none => if positive then none else k c
  | beginHere, k => fun c => k { c with begins := some c.index }

/-- A match: how much stands before it, how long it is, and its groups. -/
structure Match where
  start : Nat
  length : Nat
  groups : List (Nat × Nat × Text)

namespace Match

def groupText (m : Match) (n : Nat) : Option Text := (m.groups.lookup n).map (·.2)

end Match

def matchAt (r : Regex) (c : Cursor) : Option Match :=
  (r.run some c).map fun e =>
    let start := e.begins.getD c.index
    ⟨start, e.index - start, e.groups⟩

/-- The first match at a place in a text or behind it. -/
def searchFrom (r : Regex) (whole : Text) : (rest : Text) → Option Char → Nat → Option Match
  | [], before, index => matchAt r ⟨before, [], index, [], whole, none⟩
  | c :: rest, before, index =>
    match matchAt r ⟨before, c :: rest, index, [], whole, none⟩ with
    | some m => some m
    | none => searchFrom r whole rest (some c) (index + 1)

def search (r : Regex) (t : Text) : Option Match := searchFrom r t t none 0

/-- All matches that do not overlap; an empty one right behind another does not count. -/
def allMatches (r : Regex) (t : Text) : List Match := go (t.length + 1) t none 0 none
where
  go : (steps : Nat) → Text → Option Char → Nat → Option Nat → List Match
    | 0, _, _, _, _ => []
    | n + 1, rest, before, index, lastEnd =>
      match searchFrom r t rest before index with
      | none => []
      | some m =>
        let endIndex := m.start + m.length
        let skipped := if m.length = 0 then endIndex + 1 - index else endIndex - index
        let before := if skipped = 0 then before else (rest.drop (skipped - 1)).head?
        let more := if rest.length < skipped then []
          else go n (rest.drop skipped) before (index + skipped) (some endIndex)
        if m.length = 0 ∧ lastEnd = some m.start then more else m :: more

/-- How many groups there are. -/
def groupCount : Regex → Nat
  | both a b => a.groupCount + b.groupCount
  | either a b => a.groupCount + b.groupCount
  | group _ r => r.groupCount + 1
  | repeated r _ _ => r.groupCount
  | prefer a b => a.groupCount + b.groupCount
  | sparing r _ _ => r.groupCount
  | settled r => r.groupCount
  | ahead _ r => r.groupCount
  | behind _ _ r => r.groupCount
  | _ => 0

/-- How many characters each match has, if that is always the same number. -/
def width? : Regex → Option Nat
  | char _ => some 1
  | both a b => do return (← a.width?) + (← b.width?)
  | either a b => if a.width? = b.width? then a.width? else none
  | prefer a b => if a.width? = b.width? then a.width? else none
  | group _ r => r.width?
  | settled r => r.width?
  | again _ => none
  | repeated r low high => if high = some low then r.width?.map (low * ·) else none
  | sparing r low high => if high = some low then r.width?.map (low * ·) else none
  | _ => some 0

end Regex

end KarelBuild.Shell
