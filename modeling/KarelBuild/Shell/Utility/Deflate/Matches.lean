import KarelBuild.Shell.Utility.Deflate.Codes

/-!
# Finding what stands before

Text is held in a window of two halves. Places are found again by the three bytes that stand there, the last one
first. When the window is full, its upper half becomes the lower one, and what stood in the lower one is forgotten.
A copy can be put off by one byte, if a longer one begins there.
-/

namespace KarelBuild.Shell.Utility.Deflate

/-- How hard is looked for copies: from what length on less hard, up to what length for a longer one at the next
byte, what length is enough, and in how many places. -/
structure Effort where
  good : Nat
  lazy : Nat
  enough : Nat
  places : Nat
  /-- Whether a longer copy is looked for at the next byte. -/
  defers : Bool := true

def Effort.ofLevel (level : Nat) : Effort :=
  match level with
  | 1 => ⟨4, 4, 8, 4, false⟩
  | 2 => ⟨4, 5, 16, 8, false⟩
  | 3 => ⟨4, 6, 32, 32, false⟩
  | 4 => ⟨4, 4, 16, 16, true⟩
  | 5 => ⟨8, 16, 32, 32, true⟩
  | 6 => ⟨8, 16, 128, 128, true⟩
  | 7 => ⟨8, 32, 128, 256, true⟩
  | 8 => ⟨32, 128, 258, 1024, true⟩
  | _ => ⟨32, 258, 258, 4096, true⟩

def halfWindow : Nat := 0x8000

def shortest : Nat := 3

def longest : Nat := 258

/-- As much is read ahead, where there is as much. -/
def lookAhead : Nat := longest + shortest + 1

def farthest : Nat := halfWindow - lookAhead

/-- A copy of three bytes is not worth it from farther away. -/
def farthestShort : Nat := 4096

/-- Symbols that are written with the same codes, and the text that they stand for. -/
structure Block where
  tokens : Array Token
  start : Nat
  stop : Nat
  /-- Whether the text is still in the window. -/
  isHeld : Bool

/-- What a search knows: where the window starts, how far text has been read, and where bytes stood. -/
structure Search where
  data : ByteArray
  base : Nat := 0
  loaded : Nat := 0
  isOver : Bool := false
  /-- The last place of three bytes, and the one before each. -/
  heads : Array Nat := Array.replicate halfWindow 0
  chain : Array Nat := Array.replicate halfWindow 0
  matchStart : Nat := 0
  blockStart : Nat := 0
  tokens : Array Token := #[]
  copies : Nat := 0
  /-- How many bits the distances take at most, for a guess. -/
  distanceBits : Nat := 0
  blocks : Array Block := #[]

namespace Search

/-- The byte at a place; behind the end stands what the window held before. -/
def byteAt (s : Search) (i : Nat) : UInt8 :=
  if h : i < s.data.size then s.data[i]
  else if s.base = 0 ∨ i < s.data.size + 2 then 0
  else
    let j := i - halfWindow
    if h : j < s.data.size then s.data[j] else 0

/-- Read on, until enough can be seen from a place. -/
def refill (i : Nat) : (tries : Nat) → Search → Search
  | 0, s => s
  | k + 1, s =>
    if lookAhead ≤ s.loaded - i ∨ s.isOver then s
    else
      let base := if halfWindow + farthest ≤ i - s.base then s.base + halfWindow else s.base
      let room := base + 2 * halfWindow - s.loaded
      let more := min room (s.data.size - s.loaded)
      refill i k { s with base, loaded := s.loaded + more, isOver := more = 0 }

/-- Note what stands at a place, and tell where the same stood before. -/
def insert (i : Nat) : Search → Nat × Search
  | ⟨data, base, loaded, isOver, heads, chain, matchStart, blockStart, tokens, copies, distanceBits, blocks⟩ =>
    let s : Search := { data, base, heads := #[], chain := #[] }
    let key := ((((s.byteAt i).toNat <<< 10) ^^^ ((s.byteAt (i + 1)).toNat <<< 5)) ^^^ (s.byteAt (i + 2)).toNat) % halfWindow
    let before := heads.getD key 0
    (before, ⟨data, base, loaded, isOver, heads.setIfInBounds key i, chain.setIfInBounds (i % halfWindow) before,
      matchStart, blockStart, tokens, copies, distanceBits, blocks⟩)

/-- How many bytes at two places are the same, up to the length of the longest copy. -/
def sameFrom (s : Search) (i j : Nat) : (most : Nat) → (count : Nat) → Nat
  | 0, n => n
  | k + 1, n => if s.byteAt (i + n) = s.byteAt (j + n) then sameFrom s i j k (n + 1) else n

/-- The longest copy among the places of a chain, if it is longer than one that is known. -/
def longestFrom (e : Effort) (s : Search) (i limit : Nat) : (places : Nat) → (place best start : Nat) → Nat × Nat
  | 0, _, best, start => (best, start)
  | k + 1, place, best, start =>
    let isWorth := s.byteAt (place + best) = s.byteAt (i + best) ∧ s.byteAt (place + best - 1) = s.byteAt (i + best - 1)
    let length := if isWorth then sameFrom s i place longest 0 else 0
    let (best, start) := if best < length then (length, place) else (best, start)
    if e.enough ≤ length ∧ best = length then (best, start)
    else
      let next := s.chain.getD (place % halfWindow) 0
      if limit < next then longestFrom e s i limit k next best start else (best, start)

/-- The length of the longest copy at a place, given where the same bytes stood last. -/
def findCopy (e : Effort) (i known place : Nat) (s : Search) : Nat × Nat :=
  let limit := s.base + (i - s.base - farthest)
  let places := if e.good ≤ known then e.places / 4 else e.places
  let (length, start) := longestFrom e s i limit places place known s.matchStart
  (min length (s.loaded - i), start)

/-- Whether a place where the same bytes stood is still in reach. -/
def isNear (s : Search) (i place : Nat) : Bool :=
  s.base < place && i - place ≤ farthest && i - s.base ≤ 2 * halfWindow - lookAhead

def withTokens (f : Array Token → Array Token) : Search → Search
  | ⟨data, base, loaded, isOver, heads, chain, matchStart, blockStart, tokens, copies, distanceBits, blocks⟩ =>
    ⟨data, base, loaded, isOver, heads, chain, matchStart, blockStart, f tokens, copies, distanceBits, blocks⟩

/-- Add a symbol; tells whether the block is full, or worth being ended. -/
def add (guesses : Bool) (t : Token) (i : Nat) (s : Search) : Bool × Search :=
  let s := s.withTokens (·.push t)
  let s := match t with
    | .literal _ => s
    | .copy _ distance =>
      { s with copies := s.copies + 1, distanceBits := s.distanceBits + 5 + (distanceSymbol distance).extraBits }
  let count := s.tokens.size
  let isShort := guesses && count % 0x1000 == 0 && s.copies < count / 2 &&
    (8 * count + s.distanceBits) / 8 < (i - s.blockStart) / 2
  (isShort || count == 0x7FFF || s.copies == 0x8000, s)

/-- End a block in front of a place. -/
def endBlock (i : Nat) (s : Search) : Search :=
  let block : Block := { tokens := s.tokens, start := s.blockStart, stop := i, isHeld := s.base ≤ s.blockStart }
  { s with blocks := s.blocks.push block, tokens := #[], copies := 0, distanceBits := 0, blockStart := i }

def endIf (full : Bool) (i : Nat) (s : Search) : Search := if full then s.endBlock i else s

/-- Note what stands at some places. -/
def insertAll (start count : Nat) (s : Search) : Search :=
  (List.range count).foldl (fun s k => (s.insert (start + k)).2) s

def refilled (i : Nat) (s : Search) : Search := s.refill i 4

/-- Copy wherever something can be copied. -/
def greedy (e : Effort) (guesses : Bool) : (fuel i : Nat) → Search → Search
  | 0, i, s => s.endBlock i
  | k + 1, i, s =>
    if s.loaded ≤ i then s.endBlock i
    else
      let (place, s) := s.insert i
      let (length, start) := if s.isNear i place then s.findCopy e i (shortest - 1) place else (0, s.matchStart)
      let s := { s with matchStart := start }
      if shortest ≤ length then
        let (full, s) := s.add guesses (.copy length (i - start)) i
        let s := if length ≤ e.lazy then s.insertAll (i + 1) (length - 1) else s
        let i := i + length
        greedy e guesses k i ((s.endIf full i).refilled i)
      else
        let (full, s) := s.add guesses (.literal (s.byteAt i)) i
        greedy e guesses k (i + 1) ((s.endIf full (i + 1)).refilled (i + 1))

/-- Copy, unless a longer copy begins at the next byte. `known` is the length of the copy at the byte before, if
`pending` says that this byte has not been written yet. -/
def deferring (e : Effort) (guesses : Bool) : (fuel i : Nat) → (pending : Bool) → (known : Nat) → Search → Search
  | 0, i, _, _, s => s.endBlock i
  | k + 1, i, pending, known, s =>
    if s.loaded ≤ i then
      let s := if pending then (s.add guesses (.literal (s.byteAt (i - 1))) i).2 else s
      s.endBlock i
    else
      let (place, s) := s.insert i
      let before := s.matchStart
      let (length, start) :=
        if known < e.lazy && s.isNear i place then s.findCopy e i known place else (shortest - 1, before)
      let length := if length = shortest ∧ farthestShort < i - start then shortest - 1 else length
      let s := { s with matchStart := start }
      if shortest ≤ known ∧ length ≤ known then
        let (full, s) := s.add guesses (.copy known (i - 1 - before)) i
        let s := s.insertAll (i + 1) (known - 2)
        let i := i + known - 1
        deferring e guesses k i false (shortest - 1) ((s.endIf full i).refilled i)
      else if pending then
        let (full, s) := s.add guesses (.literal (s.byteAt (i - 1))) i
        deferring e guesses k (i + 1) true length ((s.endIf full i).refilled (i + 1))
      else deferring e guesses k (i + 1) true length (s.refilled (i + 1))

end Search

/-- Text as blocks of symbols; there is always one. -/
def blocksOf (level : Nat) (data : ByteArray) : Array Block :=
  let e := Effort.ofLevel level
  let loaded := min data.size (2 * halfWindow)
  let s : Search := { data, loaded, isOver := loaded = 0 }
  let s := s.refilled 0
  let guesses := decide (2 < level)
  (if e.defers then s.deferring e guesses (data.size + 1) 0 false (shortest - 1)
    else s.greedy e guesses (data.size + 1) 0).blocks

end KarelBuild.Shell.Utility.Deflate
