import KarelBuild.Shell.Utility.Basic

/-!
# Which lines are changed

Two sequences are aligned so that as few items as possible are deleted from the first and inserted into the
second. The search goes from both ends at once, one edit after another, along the diagonals on which equal
items follow each other; where the two meet, the sequences are cut, and the parts are searched in the same
way. At last each run of changes is moved as far to the end as equal items allow.
-/

namespace KarelBuild.Shell.Utility.Comparing

/-- What is compared: of each item, the class of those that count as equal. -/
structure Sequences where
  left : Array Nat
  right : Array Nat

namespace Sequences

def agree (s : Sequences) (x y : Int) : Bool :=
  match s.left[x.toNat]?, s.right[y.toNat]? with
  | some a, some b => a == b
  | _, _ => false

end Sequences

/-- Go on while the items after a place agree. -/
def slideOn (s : Sequences) (xEnd yEnd : Int) : (steps : Nat) → (x y : Int) → Int
  | 0, x, _ => x
  | n + 1, x, y =>
    if x < xEnd ∧ y < yEnd ∧ s.agree x y then slideOn s xEnd yEnd n (x + 1) (y + 1) else x

/-- Go back while the items before a place agree. -/
def slideBack (s : Sequences) (xStart yStart : Int) : (steps : Nat) → (x y : Int) → Int
  | 0, x, _ => x
  | n + 1, x, y =>
    if xStart < x ∧ yStart < y ∧ s.agree (x - 1) (y - 1) then slideBack s xStart yStart n (x - 1) (y - 1) else x

/-- How far a search has come on each diagonal between two of them. A diagonal is the distance between the
places in both sequences. -/
structure Front where
  reach : Array Int
  low : Int
  high : Int

namespace Front

def get (f : Front) (bias d : Int) : Int := f.reach.getD (d + bias).toNat 0

def set (f : Front) (bias d x : Int) : Front := { f with reach := f.reach.setIfInBounds (d + bias).toNat x }

/-- Take in one more diagonal on both sides, where there is one. -/
def widen (f : Front) (bias least most outside : Int) : Front :=
  let f := if f.low > least then { f.set bias (f.low - 2) outside with low := f.low - 1 }
    else { f with low := f.low + 1 }
  if f.high < most then { f.set bias (f.high + 2) outside with high := f.high + 1 }
  else { f with high := f.high - 1 }

def start (size : Nat) (bias d x : Int) : Front := (Front.mk (Array.replicate size 0) d d).set bias d x

end Front

/-- A part of both sequences. -/
structure Window where
  xStart : Int
  xEnd : Int
  yStart : Int
  yEnd : Int

namespace Window

def size (w : Window) : Nat := (w.xEnd - w.xStart + (w.yEnd - w.yStart)).toNat

/-- The diagonals of both searches after one more edit, from the highest to the lowest; where they have met,
the place of the meeting. -/
def forward (s : Sequences) (w : Window) (bias : Int) (odd : Bool) (back : Front) :
    (steps : Nat) → (d : Int) → Front → Front × Option (Int × Int)
  | 0, _, f => (f, none)
  | n + 1, d, f =>
    if d < f.low then (f, none)
    else
      let lower := f.get bias (d - 1)
      let upper := f.get bias (d + 1)
      let x := if lower < upper then upper else lower + 1
      let x := slideOn s w.xEnd w.yEnd w.size x (x - d)
      let f := f.set bias d x
      if odd ∧ back.low ≤ d ∧ d ≤ back.high ∧ back.get bias d ≤ x then (f, some (x, x - d))
      else forward s w bias odd back n (d - 2) f

def backward (s : Sequences) (w : Window) (bias : Int) (odd : Bool) (front : Front) :
    (steps : Nat) → (d : Int) → Front → Front × Option (Int × Int)
  | 0, _, b => (b, none)
  | n + 1, d, b =>
    if d < b.low then (b, none)
    else
      let lower := b.get bias (d - 1)
      let upper := b.get bias (d + 1)
      let x := if lower < upper then lower else upper - 1
      let x := slideBack s w.xStart w.yStart w.size x (x - d)
      let b := b.set bias d x
      if !odd ∧ front.low ≤ d ∧ d ≤ front.high ∧ x ≤ front.get bias d then (b, some (x, x - d))
      else backward s w bias odd front n (d - 2) b

/-- Search from both ends, one edit after another, until the searches meet. -/
def meeting (s : Sequences) (w : Window) (bias : Int) (odd : Bool) : (edits : Nat) → (front back : Front) →
    Int × Int
  | 0, _, _ => (w.xStart, w.yStart)
  | n + 1, front, back =>
    let least := w.xStart - w.yEnd
    let most := w.xEnd - w.yStart
    let front := front.widen bias least most (-1)
    let (front, met) := forward s w bias odd back (w.size + 1) front.high front
    match met with
    | some place => place
    | none =>
      let back := back.widen bias least most 0x7fffffffffffffff
      let (back, met) := backward s w bias odd front (w.size + 1) back.high back
      match met with
      | some place => place
      | none => meeting s w bias odd n front back

/-- Where to cut the sequences: a place on a shortest way through both. -/
def middle (s : Sequences) (w : Window) : Int × Int :=
  let bias := 2 - (w.xStart - w.yEnd)
  let size := w.size + 5
  let first := w.xStart - w.yStart
  let last := w.xEnd - w.yEnd
  meeting s w bias ((first - last) % 2 != 0) (w.size + 1) (Front.start size bias first w.xStart)
    (Front.start size bias last w.xEnd)

end Window

/-- Of each item of both sequences, whether it is changed. -/
structure ChangeMarks where
  left : Array Bool
  right : Array Bool

namespace ChangeMarks

def deleted (m : ChangeMarks) (x : Int) : ChangeMarks := { m with left := m.left.setIfInBounds x.toNat true }

def inserted (m : ChangeMarks) (y : Int) : ChangeMarks := { m with right := m.right.setIfInBounds y.toNat true }

end ChangeMarks

/-- Mark what is changed in a part of the sequences. -/
def align (s : Sequences) : (depth : Nat) → Window → ChangeMarks → ChangeMarks
  | 0, _, m => m
  | n + 1, w, m =>
    let x := slideOn s w.xEnd w.yEnd w.size w.xStart w.yStart
    let w : Window := ⟨x, w.xEnd, w.yStart + (x - w.xStart), w.yEnd⟩
    let x := slideBack s w.xStart w.yStart w.size w.xEnd w.yEnd
    let w : Window := ⟨w.xStart, x, w.yStart, w.yEnd - (w.xEnd - x)⟩
    if w.xStart = w.xEnd then
      (List.range (w.yEnd - w.yStart).toNat).foldl (fun m (i : Nat) => m.inserted (w.yStart + i)) m
    else if w.yStart = w.yEnd then
      (List.range (w.xEnd - w.xStart).toNat).foldl (fun m (i : Nat) => m.deleted (w.xStart + i)) m
    else
      let (x, y) := w.middle s
      align s n ⟨x, w.xEnd, y, w.yEnd⟩ (align s n ⟨w.xStart, x, w.yStart, y⟩ m)

/-- The items that have an equal one in the other sequence, with their places. -/
def shared (own other : Array Nat) : Array (Nat × Nat) :=
  let most := other.foldl max 0
  let found := other.foldl (fun (t : Array Bool) k => t.setIfInBounds k true) (Array.replicate (most + 1) false)
  ((List.range own.size).toArray.zip own).filter fun (_, k) => found.getD k false

/-- Mark what is changed. Items without an equal one are, and take no part in the search. -/
def marksOf (s : Sequences) : ChangeMarks :=
  let left := shared s.left s.right
  let right := shared s.right s.left
  let within : Sequences := ⟨left.map Prod.snd, right.map Prod.snd⟩
  let w : Window := ⟨0, left.size, 0, right.size⟩
  let m := align within (w.size + 1) w ⟨Array.replicate left.size false, Array.replicate right.size false⟩
  let spread (size : Nat) (items : Array (Nat × Nat)) (marks : Array Bool) : Array Bool :=
    (items.zip marks).foldl (fun all ((i, _), isChanged) => all.setIfInBounds i isChanged)
      (Array.replicate size true)
  ⟨spread s.left.size left m.left, spread s.right.size right m.right⟩

/-! ## Runs of changes -/

def isMarked (marks : Array Bool) (i : Int) : Bool := i ≥ 0 && marks.getD i.toNat false

def mark (marks : Array Bool) (i : Int) (value : Bool) : Array Bool := marks.setIfInBounds i.toNat value

/-- The first place from one on that is not marked. -/
def pastRun (marks : Array Bool) : (steps : Nat) → Int → Int
  | 0, i => i
  | n + 1, i => if isMarked marks i then pastRun marks n (i + 1) else i

/-- The last place up to one that is not marked. -/
def beforeRun (marks : Array Bool) : (steps : Nat) → Int → Int
  | 0, i => i
  | n + 1, i => if isMarked marks i then beforeRun marks n (i - 1) else i

/-- A run of changes from `start` to before `stop`, the place in the other sequence that stands beside its
end, and the last end at which there are changes beside it. -/
structure ChangedRun where
  marks : Array Bool
  start : Int
  stop : Int
  beside : Int
  matching : Int

section

variable (kinds : Array Nat) (other : Array Bool)

def kindAt (i : Int) : Option Nat := if i < 0 then none else kinds[i.toNat]?

def ChangedRun.back (size : Nat) : (steps : Nat) → ChangedRun → ChangedRun
  | 0, r => r
  | n + 1, r =>
    if r.start > 0 ∧ kindAt kinds (r.start - 1) = kindAt kinds (r.stop - 1) then
      let marks := mark (mark r.marks (r.start - 1) true) (r.stop - 1) false
      ChangedRun.back size n { r with
        marks
        start := beforeRun marks size (r.start - 2) + 1
        stop := r.stop - 1
        beside := beforeRun other size (r.beside - 1) }
    else r

def ChangedRun.on (size : Nat) : (steps : Nat) → ChangedRun → ChangedRun
  | 0, r => r
  | n + 1, r =>
    if r.stop < kinds.size ∧ kindAt kinds r.start = kindAt kinds r.stop then
      let marks := mark (mark r.marks r.start false) r.stop true
      let stop := pastRun marks size (r.stop + 1)
      let beside := pastRun other size (r.beside + 1)
      ChangedRun.on size n { r with
        marks, start := r.start + 1, stop, beside
        matching := if beside = r.beside + 1 then r.matching else stop }
    else r

/-- Move a run back and on again as far as equal items allow, until it does not grow any more. -/
def ChangedRun.settle (size : Nat) : (steps : Nat) → ChangedRun → ChangedRun
  | 0, r => r
  | n + 1, r =>
    let b := r.back kinds other size size
    let b := { b with matching := if isMarked other (b.beside - 1) then b.stop else kinds.size }
    let m := b.on kinds other size size
    if m.stop - m.start = r.stop - r.start then m else ChangedRun.settle size n m

/-- Move a run back to where there are changes beside it. -/
def ChangedRun.returned (size : Nat) : (steps : Nat) → ChangedRun → ChangedRun
  | 0, r => r
  | n + 1, r =>
    if r.matching < r.stop then
      ChangedRun.returned size n { r with
        marks := mark (mark r.marks (r.start - 1) true) (r.stop - 1) false
        start := r.start - 1, stop := r.stop - 1, beside := beforeRun other size (r.beside - 1) }
    else r

/-- Move all runs from two places on. -/
def moveRuns (size : Nat) : (steps : Nat) → (i j : Int) → Array Bool → Array Bool
  | 0, _, _, marks => marks
  | n + 1, i, j, marks =>
    if i ≥ kinds.size then marks
    else if isMarked marks i then
      let r : ChangedRun := ⟨marks, i, pastRun marks size (i + 1), pastRun other size j, 0⟩
      let r := (r.settle kinds other size size).returned other size size
      moveRuns size n r.stop r.beside r.marks
    else moveRuns size n (i + 1) (pastRun other size j + 1) marks

end

/-- Move the runs of changes in both sequences. -/
def settled (s : Sequences) (m : ChangeMarks) : ChangeMarks :=
  let size := s.left.size + s.right.size + 2
  let left := moveRuns s.left m.right size size 0 0 m.left
  ⟨left, moveRuns s.right left size size 0 0 m.right⟩

/-- A change: how many items are deleted from a place on in the first sequence, and how many are inserted
from a place on in the second. -/
structure Change where
  start : Nat
  deleted : Nat
  start' : Nat
  inserted : Nat
  deriving DecidableEq, Repr

namespace Change

def stop (c : Change) : Nat := c.start + c.deleted

def stop' (c : Change) : Nat := c.start' + c.inserted

end Change

/-- The changes between places in both sequences and their ends. -/
def collectChanges (m : ChangeMarks) (size : Nat) : (steps : Nat) → (i j : Nat) → List Change
  | 0, _, _ => []
  | n + 1, i, j =>
    if i ≥ m.left.size ∧ j ≥ m.right.size then []
    else
      let i' := (pastRun m.left size i).toNat
      let j' := (pastRun m.right size j).toNat
      if i' = i ∧ j' = j then collectChanges m size n (i + 1) (j + 1)
      else ⟨i, i' - i, j, j' - j⟩ :: collectChanges m size n (i' + 1) (j' + 1)

/-- What has to be changed to get from one sequence to the other. -/
def Sequences.changes (s : Sequences) : List Change :=
  let size := s.left.size + s.right.size + 2
  collectChanges (settled s (marksOf s)) size size 0 0

/-- The changes, where items at the beginning and at the end that are the same in both sequences are left
out, apart from a number of them. -/
def Sequences.changesWithin (s : Sequences) (isSame : Nat → Nat → Bool) (horizon : Nat) : List Change :=
  let n := s.left.size
  let m := s.right.size
  let front := ((List.range (min n m)).takeWhile fun i => isSame i i).length
  let back := ((List.range (min n m - front)).takeWhile fun i => isSame (n - 1 - i) (m - 1 - i)).length
  let front := front - horizon
  let back := back - horizon
  let within : Sequences := ⟨s.left.extract front (n - back), s.right.extract front (m - back)⟩
  within.changes.map fun (c : Change) => { c with start := c.start + front, start' := c.start' + front }

end KarelBuild.Shell.Utility.Comparing
