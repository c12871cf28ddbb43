import KarelBuild.Shell.Utility.Versions
import KarelBuild.Shell.Utility.Files

/-!
# Orders of items

`tsort` puts items behind those that they depend on, `shuf` puts lines into any order.
-/

namespace KarelBuild.Shell.Utility

open ShellM

namespace Ordering

/-! ## By what comes before -/

/-- An item, how many relations lead to it, and the items that it comes before, the last one first. -/
structure Node where
  name : Octets
  before : Nat := 0
  after : List Nat := []
  isDone : Bool := false
  /-- The item that was visited before it in a search for a circle. -/
  link : Option Nat := none

abbrev Graph := Array Node

namespace Graph

def at? (g : Graph) (i : Nat) : Node := g.getD i ⟨[], 0, [], true, none⟩

/-- One item comes before another. -/
def relate (g : Graph) (i j : Nat) : Graph :=
  if i = j then g
  else (g.modify i fun n => { n with after := j :: n.after }).modify j fun n => { n with before := n.before + 1 }

/-- Items in the order of their names, with the relations between each two of a list. -/
def ofPairs (names : List Octets) : Graph :=
  let sorted := (names.mergeSort fun a b => compareText a b != .gt).foldl (fun (back : List Octets) n =>
    if back.head? = some n then back else n :: back) []
  let all := sorted.reverse.toArray
  let placeOf (n : Octets) : Nat := find all n (all.size + 1) 0 all.size
  pairUp placeOf names (all.map fun n => ({ name := n } : Node))
where
  find (all : Array Octets) (n : Octets) : (steps : Nat) → (low high : Nat) → Nat
    | 0, low, _ => low
    | k + 1, low, high =>
      if high ≤ low then low
      else
        let middle := (low + high) / 2
        if compareText (all.getD middle []) n == .lt then find all n k (middle + 1) high else find all n k low middle
  pairUp (placeOf : Octets → Nat) : List Octets → Graph → Graph
    | a :: b :: rest, g => pairUp placeOf rest (g.relate (placeOf a) (placeOf b))
    | _, g => g

/-- The items that nothing has to come before, and that are not done. -/
def free (g : Graph) : List Nat :=
  (List.range g.size).filter fun i => !(g.at? i).isDone && (g.at? i).before = 0

/-- Take items from a line; what becomes free stands at its end. -/
def drain : (steps : Nat) → Graph → (line : List Nat) → (back : List Octets) → Graph × List Octets
  | 0, g, _, back => (g, back)
  | _, g, [], back => (g, back)
  | n + 1, g, i :: line, back =>
    let node := g.at? i
    let g := g.modify i fun n => { n with isDone := true }
    let (g, freed) := node.after.foldl (fun (g, freed) j =>
      let g : Graph := g.modify j fun n => { n with before := n.before - 1 }
      (g, if (g.at? j).before = 0 then j :: freed else freed)) (g, ([] : List Nat))
    drain n g (line ++ freed.reverse) (node.name :: back)

/-- What a search for a circle has found: the item that was visited last, and the circle. -/
structure Search where
  graph : Graph
  current : Option Nat := none
  circle : List Octets := []
  isOver : Bool := false

/-- The circle that ends with an item: the items that were visited, from the last one back to it. -/
def retrace (g : Graph) (k : Nat) : (steps : Nat) → (i : Nat) → List Octets
  | 0, _ => []
  | n + 1, i =>
    (g.at? i).name :: if i = k then []
      else match (g.at? i).link with
        | some j => retrace g k n j
        | none => []

/-- Look at an item: it may be the first of a way back, go on with one, or close a circle. -/
def look (s : Search) (k : Nat) : Search :=
  let g := s.graph
  if s.isOver ∨ (g.at? k).before = 0 then s
  else match s.current with
    | none => { s with current := some k }
    | some loop =>
      if !(g.at? k).after.contains loop then s
      else if (g.at? k).link.isSome then
        let circle := retrace g k (g.size + 1) loop
        let g := (g.modify k fun n => { n with after := n.after.erase loop }).modify loop fun n =>
          { n with before := n.before - 1 }
        { s with graph := g.map fun n => { n with link := none }, current := none, circle, isOver := true }
      else { s with graph := g.modify k fun n => { n with link := some loop }, current := some k }

/-- Look for a circle, again and again through all items, and take one relation out of it. -/
def breakCircle : (tries : Nat) → Search → Graph × List Octets
  | 0, s => (s.graph, s.circle)
  | n + 1, s =>
    let s := (List.range s.graph.size).foldl look s
    if s.isOver then (s.graph, s.circle) else breakCircle n s

end Graph

/-- Put out all items; circles are complained of, and broken. -/
def putInOrder (file : Octets) : (steps : Nat) → Graph → (fine : Bool) → ShellM Bool
  | 0, _, fine => return fine
  | n + 1, g, fine => do
    let (g, back) := g.drain (g.size + 1) g.free []
    emit (unlines back.reverse)
    if g.all (·.isDone) then return fine
    else if g.free ≠ [] then putInOrder file n g fine
    else
      grumble (named file ++ ": input contains a loop:".toList)
      let (g, circle) := Graph.breakCircle (g.size * g.size + 2) { graph := g }
      for name in circle do grumble name
      putInOrder file n g false

def tsort : Utility := fun _ args => do
  let g ← given [] args
  match g.operands with
  | _ :: extra :: _ => misuse 1 ("extra operand ".toList ++ quoted extra)
  | _ =>
    let file := g.operands.headD ['-']
    match ← readOperand file with
    | .error e =>
      if file = ['-'] ∨ e = .isDirectory then stop 1 (named file ++ ": read error: ".toList ++ e.wording.toList)
      else stop 1 (reason file e)
    | .ok o =>
      let words := (Text.split ' ' (o.map fun c => if c = '\n' ∨ c = '\t' then ' ' else c)).filter (· != [])
      if words.length % 2 = 1 then stop 1 (named file ++ ": input contains an odd number of tokens".toList)
      let g := Graph.ofPairs words
      return if ← putInOrder file (g.size * g.size + words.length + 2) g true then 0 else 1

/-! ## In any order -/

/-- A range of numbers with a dash between its ends. -/
def rangeGiven (v : Octets) : ShellM (List Octets) := do
  let (low, high) := Text.cut '-' v
  match high with
  | some high =>
    if isNumber low ∧ isNumber high ∧ digitsValue low ≤ digitsValue high + 1 then
      return (List.range (digitsValue high + 1 - digitsValue low)).map fun i => Text.ofNat (digitsValue low + i)
    else stop 1 ("invalid input range: ".toList ++ quoted v)
  | none => stop 1 ("invalid input range: ".toList ++ quoted v)

/-- Put out lines in any order, which may be the one that they have. -/
def shuf : Utility := fun _ args => do
  let g ← given (forms [('e', "echo"), ('r', "repeat"), ('z', "zero-terminated")]
    [('i', "input-range"), ('n', "head-count"), ('o', "output"), ('\x01', "random-source")]) args
  let ranges := (g.options.filter (·.1 == 'i')).map Prod.snd
  if ranges.length > 1 then stop 1 "multiple -i options specified".toList
  let counts ← (g.options.filter (·.1 == 'n')).mapM fun (_, v) => do
    if isNumber v then return digitsValue v else stop 1 ("invalid line count: ".toList ++ quoted v)
  if g.has 'e' && ranges != [] then misuse 1 "cannot combine -e and -i options".toList
  let limit := counts.min?
  let stopChar := if g.has 'z' then '\x00' else '\n'
  let extra := if g.has 'e' then [] else if ranges = [] then g.operands.drop 1 else g.operands
  match extra with
  | o :: _ => misuse 1 ("extra operand ".toList ++ quoted o)
  | [] => pure ()
  let items ← match ranges with
    | v :: _ => rangeGiven v
    | [] =>
      if g.has 'e' then pure g.operands
      else
        let name := g.operands.headD ['-']
        match ← readOperand name with
        | .ok o =>
          let (lines, rest) := wholeLines stopChar o
          pure (lines.map Prod.fst ++ if rest = [] then [] else [rest])
        | .error e =>
          if name = ['-'] ∨ e = .isDirectory then stop 1 ("read error: ".toList ++ e.wording.toList)
          else stop 1 (reason name e)
  match g.value? '\x01' with
  | some v =>
    match ← readOperand v with
    | .ok _ => pure ()
    | .error e => stop 1 (reason v e)
  | none => pure ()
  if g.has 'r' ∧ limit ≠ some 0 ∧ items = [] then stop 1 "no lines to repeat".toList
  let chosen := match g.has 'r', limit with
    | true, some n => (List.range n).map fun i => items.getD (i % items.length) []
    | false, some n => items.take n
    | _, none => items
  let text := chosen.flatMap (· ++ [stopChar])
  match g.value? 'o' with
  | none =>
    if g.has 'r' ∧ limit.isNone then
      emitForever text forever
      return 0
    else
      emit text
      return 0
  | some path =>
    match ← openPath path .writes with
    | .error e => stop 1 (reason path e)
    | .ok n =>
      let _ ← writeTo n text
      return 0

end Ordering

end KarelBuild.Shell.Utility
