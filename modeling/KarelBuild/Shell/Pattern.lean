import KarelBuild.Text

/-!
# Patterns

A star matches any text, a question mark any character, and brackets one of those listed. A
character that was quoted only matches itself. Extended patterns may have groups of alternatives.
-/

namespace KarelBuild.Shell

/-- A character, and whether it may act as a mark of a pattern. -/
abbrev Marked := Char × Bool

/-! ## Classes of characters -/

/-- What the names of classes stand for, for bytes that are ASCII. -/
def charClass? (name : Text) : Option (Char → Bool) :=
  let isPunct (c : Char) : Bool := '!' ≤ c && c ≤ '~' && !c.isAlphanum
  match String.ofList name with
  | "alpha" => some Char.isAlpha
  | "digit" => some Char.isDigit
  | "alnum" => some Char.isAlphanum
  | "upper" => some Char.isUpper
  | "lower" => some Char.isLower
  | "space" => some fun c => c == ' ' || ('\t' ≤ c && c ≤ '\r')
  | "blank" => some fun c => c == ' ' || c == '\t'
  | "punct" => some isPunct
  | "print" => some fun c => ' ' ≤ c && c ≤ '~'
  | "graph" => some fun c => '!' ≤ c && c ≤ '~'
  | "cntrl" => some fun c => c < ' ' || c == '\x7f'
  | "xdigit" => some fun c => c.isDigit || ('a' ≤ c && c ≤ 'f') || ('A' ≤ c && c ≤ 'F')
  | _ => none

/-- What may stand between brackets. -/
inductive Listed where
  | range (low high : Char)
  | kind (p : Char → Bool)

def Listed.holds : Listed → Char → Bool
  | range low high, c => low ≤ c && c ≤ high
  | kind p, c => p c

inductive PatternItem where
  | one (c : Char)
  | any
  | anyText
  | among (listed : List Listed) (expected : Bool)
  /-- Alternatives, and the mark that tells how often one of them has to match. -/
  | group (kind : Char) (alternatives : List (List PatternItem))

namespace Pattern

/-- A backslash quotes the character behind it. -/
def unescape : List Marked → List Marked
  | ('\\', true) :: (c, _) :: r => (c, false) :: unescape r
  | m :: r => m :: unescape r
  | [] => []

/-- The class whose name follows, and what stands behind it. -/
def namedClass? (m : List Marked) : Option ((Char → Bool) × List Marked) :=
  let name := (m.takeWhile fun c => c.1 != ':').map (·.1)
  match m.drop name.length with
  | (':', _) :: (']', _) :: rest => (charClass? name).map (·, rest)
  | _ => none

/-- What stands between brackets, and what follows them. A closing bracket in front is listed. -/
def listed? : (steps : Nat) → (first : Bool) → List Marked → Option (List Listed × List Marked)
  | 0, _, _ => none
  | _, _, [] => none
  | n + 1, first, (c, active) :: r =>
    if c = ']' ∧ active ∧ !first then some ([], r)
    else
      let single : Option (List Listed × List Marked) := match r with
        | ('-', true) :: (e, b) :: r' =>
          if (e, b) = (']', true) then (listed? n false r).map fun (ls, rest) => (.range c c :: ls, rest)
          else (listed? n false r').map fun (ls, rest) => (.range c e :: ls, rest)
        | _ => (listed? n false r).map fun (ls, rest) => (.range c c :: ls, rest)
      match c, active, r with
      | '[', true, (':', true) :: r' =>
        match namedClass? r' with
        | some (p, rest) => (listed? n false rest).map fun (ls, rest) => (.kind p :: ls, rest)
        | none => single
      | _, _, _ => single

/-- Brackets behind the one that opens; `none` if they are not closed. -/
def brackets? (caret : Bool) (m : List Marked) : Option (PatternItem × List Marked) :=
  let negated := match m with
    | (c, true) :: _ => c == '!' || (caret && c == '^')
    | _ => false
  (listed? (m.length + 1) true (if negated then m.drop 1 else m)).map fun (ls, rest) =>
    (.among ls !negated, rest)

/-- The alternatives behind the parenthesis that opens, and what follows the one that closes. -/
def alternatives? : (level : Nat) → (current : List Marked) → List Marked →
    Option (List (List Marked) × List Marked)
  | _, _, [] => none
  | level, current, m :: r =>
    if m = (')', true) ∧ level = 0 then some ([current.reverse], r)
    else if m = ('|', true) ∧ level = 0 then
      (alternatives? 0 [] r).map fun (others, rest) => (current.reverse :: others, rest)
    else
      let level := if m = ('(', true) then level + 1 else if m = (')', true) then level - 1 else level
      alternatives? level (m :: current) r

/-- The group that begins here. -/
def group? (c : Char) (r : List Marked) : Option (List (List Marked) × List Marked) :=
  match r with
  | ('(', true) :: r => if "?*+@!".toList.contains c then alternatives? 0 [] r else none
  | _ => none

/-- Brackets that are not closed stand for themselves. -/
def itemsFrom (caret extended : Bool) : (steps : Nat) → List Marked → List PatternItem
  | 0, _ => []
  | _, [] => []
  | n + 1, (c, active) :: r =>
    let found := if extended ∧ active then group? c r else none
    if let some (groups, rest) := found then
      .group c (groups.map (itemsFrom caret extended n)) :: itemsFrom caret extended n rest
    else if !active then .one c :: itemsFrom caret extended n r
    else if c = '*' then .anyText :: itemsFrom caret extended n r
    else if c = '?' then .any :: itemsFrom caret extended n r
    else if c = '[' then
      match brackets? caret r with
      | some (item, rest) => item :: itemsFrom caret extended n rest
      | none => .one c :: itemsFrom caret extended n r
    else .one c :: itemsFrom caret extended n r

/-- The items of a pattern, which may have groups. -/
def itemsWith (caret extended : Bool) (m : List Marked) : List PatternItem :=
  itemsFrom caret extended (m.length + 1) (unescape m)

/-- The items of a pattern; with `caret`, a caret negates brackets too. -/
def items (caret : Bool) (m : List Marked) : List PatternItem := itemsWith caret false m

def accepts : PatternItem → Char → Bool
  | .one c, d => c == d
  | .any, _ => true
  | .anyText, _ => true
  | .among ls expected, d => ls.any (·.holds d) == expected
  | .group _ _, _ => false

/-- The texts that a text ends in, itself and the empty one included. -/
def tails : Text → List Text
  | [] => [[]]
  | c :: r => (c :: r) :: tails r

/-- A star matches some front of the text; the rest has to match what comes behind. What is left behind a
group is given by `behind`. -/
def matchesWith (behind : Char → List (List PatternItem) → Text → List Text) : List PatternItem → Text → Bool
  | [], t => t.isEmpty
  | .anyText :: is, t => (tails t).any (matchesWith behind is)
  | .group kind alternatives :: is, t => (behind kind alternatives t).any (matchesWith behind is)
  | i :: is, c :: r => accepts i c && matchesWith behind is r
  | _ :: _, [] => false

/-- The ends of texts, each once. -/
def distinctEnds : List Text → List Text
  | [] => []
  | t :: ts => t :: (distinctEnds ts).filter (·.length != t.length)

/-- What may be left of a text behind a group, if `isFront` tells what the alternatives match. -/
def behindGroup (isFront : Text → Bool) (kind : Char) (t : Text) : List Text :=
  let once (u : Text) : List Text := (tails u).filter fun v => isFront (u.take (u.length - v.length))
  let again (us : List Text) : List Text := distinctEnds (us ++ us.flatMap once)
  let repeated (us : List Text) : List Text := (List.range (t.length + 1)).foldl (fun us _ => again us) us
  if kind = '@' then once t
  else if kind = '?' then distinctEnds (t :: once t)
  else if kind = '+' then repeated (once t)
  else if kind = '*' then repeated [t]
  else (tails t).filter fun v => !isFront (t.take (t.length - v.length))

/-- Whether a pattern matches a text; its groups nest at most `depth` deep. -/
def isMatchIn : (depth : Nat) → List PatternItem → Text → Bool
  | 0 => matchesWith fun _ _ _ => []
  | n + 1 => matchesWith fun kind alternatives t =>
    behindGroup (fun front => alternatives.any fun is => isMatchIn n is front) kind t

def maxGroups : Nat := 24

def isMatch (is : List PatternItem) (t : Text) : Bool := isMatchIn maxGroups is t

/-- Whether a text may stand for several names. -/
def isPattern (extended : Bool) (m : List Marked) : Bool := (itemsWith false extended m).any fun
  | .one _ => false
  | _ => true

/-! ## Ends that match -/

/-- The text without its shortest or longest front that matches. -/
def dropFront (longest : Bool) (is : List PatternItem) (t : Text) : Text :=
  let lengths := List.range (t.length + 1)
  let lengths := if longest then lengths.reverse else lengths
  match lengths.find? fun n => isMatch is (t.take n) with
  | some n => t.drop n
  | none => t

/-- The text without its shortest or longest end that matches. -/
def dropBack (longest : Bool) (is : List PatternItem) (t : Text) : Text :=
  let lengths := List.range (t.length + 1)
  let lengths := if longest then lengths else lengths.reverse
  match lengths.find? fun n => isMatch is (t.drop n) with
  | some n => t.take n
  | none => t

/-- The length of the longest front that matches. -/
def longestFront? (is : List PatternItem) (t : Text) : Option Nat :=
  (List.range (t.length + 1)).reverse.find? fun n => isMatch is (t.take n)

/-- Replace the matches of a pattern, all of them or the first. -/
def replace (is : List PatternItem) (all : Bool) (put : Text → Text) : (steps : Nat) → Text → Text
  | 0, t => t
  | _, [] => []
  | n + 1, c :: r =>
    match longestFront? is (c :: r) with
    | some (k + 1) => put (c :: r.take k) ++ (if all then replace is all put n (r.drop k) else r.drop k)
    | _ => c :: replace is all put n r

end Pattern

end KarelBuild.Shell
