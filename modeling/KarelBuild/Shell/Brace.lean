import KarelBuild.Shell.Statement

/-!
# Braces

Alternatives between braces make several words of one, and so do sequences from one number or letter to
another. What is quoted or stands for a value is kept as it is.
-/

namespace KarelBuild.Shell.Brace

/-- A character that may be a mark, or a part of a word that is none. -/
inductive Piece where
  | char (c : Char)
  | part (p : Part)

namespace Piece

def isChar (c : Char) : Piece → Bool
  | char d => c == d
  | part _ => false

def char? : Piece → Option Char
  | char c => some c
  | part _ => none

end Piece

def ofWord (w : Word) : List Piece :=
  w.flatMap fun
    | .plain t => t.map .char
    | p => [.part p]

def toWord : List Piece → Word
  | [] => []
  | .char c :: r => Word.consPlain [c] (toWord r)
  | .part p :: r => p :: toWord r

/-- Whether two points separate the ends of a sequence here. -/
def startsSequence : List Piece → Bool
  | .char '.' :: .char '.' :: p :: _ => !p.isChar '\x7d'
  | _ => false

/-- The brace that closes, as the number of pieces before it. There has to be a comma, or two points, that
is in no other braces. -/
def closing? : (level : Nat) → (found : Bool) → List Piece → Option Nat
  | _, _, [] => none
  | level, found, p :: r =>
    let next (level : Nat) (found : Bool) : Option Nat := (closing? level found r).map (· + 1)
    if p.isChar '\x7d' then
      if level = 0 ∧ found then some 0 else next (level - 1) found
    else if p.isChar '\x7b' then next (level + 1) found
    else next level (found || (level == 0 && (p.isChar ',' || startsSequence (p :: r))))

/-- The first braces that are to be expanded: how many pieces stand before them and in them. -/
def first? : List Piece → Option (Nat × Nat)
  | [] => none
  | p :: r =>
    let later : Option (Nat × Nat) := (first? r).map fun (n, m) => (n + 1, m)
    if p.isChar '\x7b' then
      match closing? 0 false r with
      | some m => some (0, m)
      | none => later
    else later

/-- The alternatives between commas that are in no other braces. -/
def alternatives : (level : Nat) → (current : List Piece) → List Piece → List (List Piece)
  | _, current, [] => [current.reverse]
  | level, current, p :: r =>
    if p.isChar ',' ∧ level = 0 then current.reverse :: alternatives level [] r
    else
      let level := if p.isChar '\x7b' then level + 1 else if p.isChar '\x7d' then level - 1 else level
      alternatives level (p :: current) r

/-! ## Sequences -/

def number? (t : Text) : Option Int :=
  let digits := match t with
    | '-' :: r => r
    | '+' :: r => r
    | r => r
  if digits = [] ∨ !digits.all Char.isDigit then none
  else
    let n : Int := (String.ofList digits).toNat?.getD 0
    if n < 0x8000000000000000 then some (if t.head? = some '-' then -n else n) else none

/-- The numbers from one to another in steps. -/
def steps (first last step : Int) : List Int :=
  let size := if step = 0 then 1 else step.natAbs
  let count := (last - first).natAbs / size + 1
  (List.range count).map fun i => if first ≤ last then first + (i * size : Nat) else first - (i * size : Nat)

def padded (width : Nat) (n : Int) : Text :=
  let digits := Text.ofNat n.natAbs
  let sign := if n < 0 then ['-'] else []
  sign ++ List.replicate (width - sign.length - digits.length) '0' ++ digits

/-- Whether an end of a sequence asks for zeros in front. -/
def hasZeros (t : Text) : Bool :=
  match t with
  | '0' :: _ :: _ => true
  | '-' :: '0' :: _ :: _ => true
  | _ => false

/-- The texts between two points each. -/
def cutPoints : Text → List Text
  | [] => [[]]
  | '.' :: '.' :: r => [] :: cutPoints r
  | c :: r => Text.consHead c (cutPoints r)

/-- The members of a sequence that a text between braces is. -/
def sequence? (t : Text) : Option (List Text) :=
  let ends? : Option (Text × Text × Int) := match cutPoints t with
    | [a, b] => some (a, b, 1)
    | [a, b, step] => (number? step).map fun n => (a, b, n)
    | _ => none
  ends?.bind fun (a, b, step) =>
    match number? a, number? b with
    | some m, some n =>
      let width := if hasZeros a ∨ hasZeros b then max a.length b.length else 0
      some ((steps m n step).map (padded width))
    | _, _ =>
      match a, b with
      | [c], [d] =>
        if c.isAlpha ∧ d.isAlpha then
          some ((steps c.toNat d.toNat step).map fun n => [Char.ofNat n.toNat])
        else none
      | _, _ => none

/-! ## Expansion -/

/-- The words that pieces stand for; braces nest at most `depth` deep. -/
def expandIn : (depth : Nat) → List Piece → List (List Piece)
  | 0, ps => [ps]
  | n + 1, ps =>
    match first? ps with
    | none => [ps]
    | some (before, size) =>
      let inside := (ps.drop (before + 1)).take size
      let behind := ps.drop (before + size + 2)
      let asWritten := (ps.drop before).take (size + 2)
      let middle : List (List Piece) :=
        if inside.any (·.isChar ',') then (alternatives 0 [] inside).flatMap (expandIn n)
        else
          let t := inside.filterMap Piece.char?
          match if t.length = inside.length then sequence? t else none with
          | some items => items.map fun t => t.map .char
          | none => [asWritten]
      let rest := if behind = [] then [[]] else expandIn n behind
      middle.flatMap fun m => rest.map fun r => ps.take before ++ m ++ r
termination_by depth => depth

/-- The words that a word with braces stands for. -/
def expand (w : Word) : List Word :=
  if w.any fun
      | .plain t => t.contains '\x7b'
      | _ => false
  then
    let ps := ofWord w
    (expandIn (ps.length + 1) ps).map toWord
  else [w]

end KarelBuild.Shell.Brace
