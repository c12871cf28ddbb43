import KarelBuild.Text.Utf8

/-!
# The order of versions

Names in which numbers count as such: runs of digits are compared by their values, and what looks like the
ending of a file's name is looked at last.
-/

namespace KarelBuild.Shell.Utility

def compareText : Octets → Octets → Ordering
  | [], [] => .eq
  | [], _ :: _ => .lt
  | _ :: _, [] => .gt
  | a :: s, b :: t => if a = b then compareText s t else compare a.toNat b.toNat

namespace Version

/-- How a text goes on where no digits are compared: a tilde comes first, then the end, digits, letters and all
else. -/
def rank (t : Octets) : Int :=
  match t with
  | [] => -1
  | c :: _ =>
    if c.isDigit then 0
    else if c.isAlpha then c.toNat
    else if c = '~' then -2
    else c.toNat + 256

def startsWithDigit (t : Octets) : Bool := t.head?.any Char.isDigit

/-- Compare up to digits on both sides, or the ends. Gives what is left where nothing differs. -/
def compareWords : (steps : Nat) → Octets → Octets → Ordering × Octets × Octets
  | 0, s, t => (.eq, s, t)
  | n + 1, s, t =>
    if (s = [] ∨ startsWithDigit s) ∧ (t = [] ∨ startsWithDigit t) then (.eq, s, t)
    else if rank s ≠ rank t then (compare (rank s) (rank t), s, t)
    else compareWords n (s.drop 1) (t.drop 1)

def compareParts : (steps : Nat) → Octets → Octets → Ordering
  | 0, _, _ => .eq
  | n + 1, s, t =>
    if s = [] ∧ t = [] then .eq
    else match compareWords (s.length + t.length + 1) s t with
      | (.eq, s, t) =>
        let s := s.dropWhile (· == '0')
        let t := t.dropWhile (· == '0')
        let x := s.takeWhile Char.isDigit
        let y := t.takeWhile Char.isDigit
        match (compare x.length y.length).then (compareText x y) with
        | .eq => compareParts n (s.drop x.length) (t.drop y.length)
        | o => o
      | (o, _, _) => o

/-- Whether a text is made of endings: points with a letter or a tilde and then letters, digits and tildes
behind each. -/
def isEnding : (afterPoint : Bool) → Octets → Bool
  | afterPoint, [] => !afterPoint
  | true, c :: r => (c.isAlpha || c == '~') && isEnding false r
  | false, c :: r => if c = '.' then isEnding true r else (c.isAlphanum || c == '~') && isEnding false r

/-- A name without the longest ending that leaves some of it. -/
def withoutEnding (t : Octets) : Octets := go 1 (t.drop 1)
where
  go (n : Nat) : Octets → Octets
    | [] => t
    | c :: r => if c = '.' ∧ isEnding true r then t.take n else go (n + 1) r

def compareNames (a b : Octets) : Ordering :=
  let x := withoutEnding a
  let y := withoutEnding b
  let steps := a.length + b.length + 1
  (compareParts steps x y).then (compareParts steps a b)

end Version

/-- Names with a point in front come first, and among them those for directories. -/
def compareVersions (a b : Octets) : Ordering :=
  let hidden (t : Octets) : Nat :=
    if t = [] then 0 else if t = ['.'] then 1 else if t = ['.', '.'] then 2 else if t.head? = some '.' then 3 else 4
  match compare (hidden a) (hidden b) with
  | .eq => if hidden a < 3 then .eq else Version.compareNames a b
  | o => o

end KarelBuild.Shell.Utility
