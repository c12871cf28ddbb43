import KarelBuild.Shell.Utility.Digests.Basic

/-!
# Codes for symbols

Compressed text is a sequence of symbols: bytes, the end of a block, and lengths and distances of text that is
copied from what stands before. Each symbol is written with a number of bits that may be its own, and no code begins
with another one. The codes follow from their sizes alone: shorter ones come first, those of one size in the order
of their symbols.
-/

namespace KarelBuild.Shell.Utility.Deflate

/-! ## Symbols -/

/-- A byte, or a number of bytes that stand some distance before. -/
inductive Token where
  | literal (byte : UInt8)
  | copy (length distance : Nat)
  deriving DecidableEq, Repr

/-- A symbol, and the number that tells more about it in so many bits. -/
structure Symbol where
  code : Nat
  extraBits : Nat := 0
  extra : Nat := 0
  deriving DecidableEq, Repr

def endOfBlock : Nat := 256

/-- A length as a symbol. Each power of two is shared among four symbols; the greatest length has its own. -/
def lengthSymbol (length : Nat) : Symbol :=
  let n := length - 3
  if length = 258 then { code := 285 }
  else if n < 8 then { code := 257 + n }
  else
    let bits := Nat.log2 n - 2
    { code := 257 + 4 * (bits + 1) + (n >>> bits) % 4, extraBits := bits, extra := n % (1 <<< bits) }

/-- A distance as a symbol. Each power of two is shared between two symbols. -/
def distanceSymbol (distance : Nat) : Symbol :=
  let n := distance - 1
  if n < 4 then { code := n }
  else
    let bits := Nat.log2 n - 1
    { code := 2 * (bits + 1) + (n >>> bits) % 2, extraBits := bits, extra := n % (1 <<< bits) }

/-- The least length that a symbol stands for, and the number of bits that tell more. -/
def lengthOfSymbol? (code : Nat) : Option (Nat × Nat) :=
  let n := code - 257
  if code < 257 ∨ 285 < code then none
  else if code = 285 then some (258, 0)
  else if n < 8 then some (3 + n, 0)
  else
    let bits := n / 4 - 1
    some (3 + ((4 + n % 4) <<< bits), bits)

def distanceOfSymbol? (code : Nat) : Option (Nat × Nat) :=
  if 29 < code then none
  else if code < 4 then some (1 + code, 0)
  else
    let bits := code / 2 - 1
    some (1 + ((2 + code % 2) <<< bits), bits)

def extraOfLengthCode (code : Nat) : Nat := ((lengthOfSymbol? code).map (·.2)).getD 0

def extraOfDistanceCode (code : Nat) : Nat := ((distanceOfSymbol? code).map (·.2)).getD 0

/-! ## Codes from their sizes -/

/-- How many codes there are of each size up to a greatest one; zero means no code. -/
def sizeCounts (most : Nat) (sizes : Array Nat) : Array Nat :=
  sizes.foldl (fun cs n => if n = 0 then cs else cs.modify n (· + 1)) (Array.replicate (most + 1) 0)

/-- The first code of each size. -/
def firstCodes (counts : Array Nat) : Array Nat :=
  let (firsts, _) := (List.range counts.size).foldl (fun ((firsts, code) : Array Nat × Nat) n =>
    let code := if n = 0 then 0 else 2 * (code + counts.getD (n - 1) 0)
    (firsts.push code, code)) (#[], 0)
  firsts

def reversedBits : (count n : Nat) → Nat
  | 0, _ => 0
  | k + 1, n => ((n % 2) <<< k) + reversedBits k (n / 2)

/-- Each symbol's code, as it is written from its lowest bit on, with its size. -/
def codesOf (most : Nat) (sizes : Array Nat) : Array (Nat × Nat) :=
  let firsts := firstCodes (sizeCounts most sizes)
  (sizes.foldl (fun ((codes, next) : Array (Nat × Nat) × Array Nat) n =>
    if n = 0 then (codes.push (0, 0), next)
    else (codes.push (reversedBits n (next.getD n 0), n), next.modify n (· + 1))) (#[], firsts)).1

/-- The sizes of the codes that need not be told. -/
def fixedSizes : Array Nat :=
  Array.replicate 144 8 ++ Array.replicate 112 9 ++ Array.replicate 24 7 ++ Array.replicate 8 8

def fixedDistanceSizes : Array Nat := Array.replicate 30 5

/-! ## Sizes from weights -/

/-- A heap of nodes, the first of which is the least. The place 0 is not used. -/
abbrev NodeHeap := Array Nat

/-- Put a node where a place has become free, below those that go before it. -/
def sink (before : Nat → Nat → Bool) (node : Nat) : (fuel place : Nat) → NodeHeap → NodeHeap
  | 0, k, h => h.setIfInBounds k node
  | fuel + 1, k, h =>
    let j := 2 * k
    if j < h.size then
      let j := if j + 1 < h.size && before (h.getD (j + 1) 0) (h.getD j 0) then j + 1 else j
      let child := h.getD j 0
      if before node child then h.setIfInBounds k node
      else sink before node fuel j (h.setIfInBounds k child)
    else h.setIfInBounds k node

/-- Nodes that are joined to trees: how much each weighs, how deep it is, and where it belongs. -/
structure Forest where
  weights : Array Nat
  depths : Array Nat
  parents : Array Nat

namespace Forest

/-- The lighter one goes first; of two that weigh the same, the one that is not deeper. -/
def before (f : Forest) (n m : Nat) : Bool :=
  let a := f.weights.getD n 0
  let b := f.weights.getD m 0
  a < b || (a == b && f.depths.getD n 0 ≤ f.depths.getD m 0)

/-- Join the two least nodes until one is left. All nodes are listed, the root first. -/
def joinAll : (fuel : Nat) → Forest → NodeHeap → (order : List Nat) → Forest × List Nat
  | 0, f, _, order => (f, order)
  | fuel + 1, f, h, order =>
    let first := h.getD 1 0
    if h.size ≤ 2 then (f, first :: order)
    else
      let last := h.getD (h.size - 1) 0
      let h := sink f.before last h.size 1 h.pop
      let second := h.getD 1 0
      let node := f.weights.size
      let f : Forest := {
        weights := f.weights.push (f.weights.getD first 0 + f.weights.getD second 0)
        depths := f.depths.push (max (f.depths.getD first 0) (f.depths.getD second 0) + 1)
        parents := ((f.parents.push 0).setIfInBounds first node).setIfInBounds second node }
      joinAll fuel f (sink f.before node h.size 1 h) (second :: first :: order)

end Forest

/-- Where codes would become too long, move leaves up until all fit. -/
def shorten (most : Nat) : (overflow : Nat) → (counts : Array Nat) → Array Nat
  | 0, cs => cs
  | 1, cs => step cs
  | n + 2, cs => shorten most n (step cs)
where
  step (cs : Array Nat) : Array Nat :=
    let size := ((List.range most).reverse.find? fun n => cs.getD n 0 ≠ 0).getD 0
    ((cs.modify size (· - 1)).modify (size + 1) (· + 2)).modify most (· - 1)

/-- The sizes that make the text shortest, for symbols with some weights. There are always two codes at least. -/
def sizesFor (most : Nat) (weights : Array Nat) : Array Nat :=
  let used := (List.range weights.size).filter fun n => weights.getD n 0 ≠ 0
  let added := match used with
    | [] => [0, 1]
    | [n] => [if n < 2 then n + 1 else 0]
    | _ => []
  let count := weights.size
  let forest : Forest := {
    weights := added.foldl (fun w n => w.setIfInBounds n 1) weights
    depths := Array.replicate count 0
    parents := Array.replicate count 0 }
  let heap : NodeHeap := (0 :: used ++ added).toArray
  let heap := (List.range (heap.size / 2)).foldl (fun h i =>
    let k := heap.size / 2 - i
    sink forest.before (h.getD k 0) h.size k h) heap
  let (f, order) := forest.joinAll (2 * count) heap []
  let (sizes, counts, overflow) := order.tail.foldl
    (fun ((sizes, counts, overflow) : Array Nat × Array Nat × Nat) n =>
      let size := sizes.getD (f.parents.getD n 0) 0 + 1
      let overflow := if most < size then overflow + 1 else overflow
      let size := min size most
      (sizes.setIfInBounds n size, if n < count then counts.modify size (· + 1) else counts, overflow))
    (Array.replicate f.weights.size 0, Array.replicate (most + 1) 0, 0)
  let sizes :=
    if overflow = 0 then sizes
    else
      let counts := shorten most overflow counts
      let leaves := order.reverse.filter (· < count)
      let given := (List.range most).flatMap fun i => List.replicate (counts.getD (most - i) 0) (most - i)
      (leaves.zip given).foldl (fun sizes (n, size) => sizes.setIfInBounds n size) sizes
  sizes.extract 0 count

/-! ## Sizes as text -/

/-- Symbols for sizes: a size itself, 16 for the one before repeated, 17 and 18 for zeros. -/
def zeroSymbols : (count : Nat) → List Symbol
  | 0 => []
  | n + 1 =>
    let k := min (n + 1) 138
    let rest := n + 1 - k
    let here : List Symbol :=
      if k < 3 then List.replicate k { code := 0 }
      else if k ≤ 10 then [{ code := 17, extraBits := 3, extra := k - 3 }]
      else [{ code := 18, extraBits := 7, extra := k - 11 }]
    here ++ zeroSymbols rest
termination_by n => n
decreasing_by omega

def repeatSymbols (size : Nat) : (count : Nat) → List Symbol
  | 0 => []
  | n + 1 =>
    let k := min (n + 1) 6
    let rest := n + 1 - k
    let here : List Symbol :=
      if k < 3 then List.replicate k { code := size } else [{ code := 16, extraBits := 2, extra := k - 3 }]
    here ++ repeatSymbols size rest
termination_by n => n
decreasing_by omega

/-- A run of sizes that are the same. -/
def runSymbols (size count : Nat) : List Symbol :=
  if size = 0 then zeroSymbols count
  else if count < 4 then List.replicate count { code := size }
  else { code := size } :: repeatSymbols size (count - 1)

def sizeSymbols (sizes : List Nat) : List Symbol :=
  (sizes.splitBy (· == ·)).flatMap fun run => runSymbols (run.headD 0) run.length

/-- The order in which the sizes of the codes for sizes are told: those that are used least come last. -/
def sizeOrder : List Nat := [16, 17, 18, 0, 8, 7, 9, 6, 10, 5, 11, 4, 12, 3, 13, 2, 14, 1, 15]

end KarelBuild.Shell.Utility.Deflate
