import KarelBuild.Shell.Utility.Deflate.Matches

/-!
# Writing compressed text

A block is written in the shortest of three ways: as it is, with the codes that are fixed, or with codes of its own,
whose sizes stand in front of it.
-/

namespace KarelBuild.Shell.Utility.Deflate

/-- Bits that are put together to bytes, from the lowest bit on. -/
structure BitWriter where
  bytes : ByteArray := ByteArray.empty
  held : Nat := 0
  count : Nat := 0

namespace BitWriter

/-- Hand over whole bytes. -/
def settle : (fuel : Nat) → BitWriter → BitWriter
  | 0, w => w
  | fuel + 1, ⟨bytes, held, count⟩ =>
    if count < 8 then ⟨bytes, held, count⟩
    else settle fuel ⟨bytes.push (UInt8.ofNat (held % 256)), held / 256, count - 8⟩

/-- Write a number in so many bits. -/
def put (n bits : Nat) : BitWriter → BitWriter
  | ⟨bytes, held, count⟩ => settle 4 ⟨bytes, held + (n <<< count), count + bits⟩

/-- Fill the last byte up. -/
def align (w : BitWriter) : BitWriter := if w.count = 0 then w else w.put 0 (8 - w.count)

def putByte (b : UInt8) (w : BitWriter) : BitWriter := { w with bytes := w.bytes.push b }

def putSymbol (codes : Array (Nat × Nat)) (s : Symbol) (w : BitWriter) : BitWriter :=
  let (code, size) := codes.getD s.code (0, 0)
  (w.put code size).put s.extra s.extraBits

def putToken (codes distances : Array (Nat × Nat)) (w : BitWriter) (t : Token) : BitWriter :=
  match t with
  | .literal b => w.putSymbol codes { code := b.toNat }
  | .copy length distance =>
    (w.putSymbol codes (lengthSymbol length)).putSymbol distances (distanceSymbol distance)

def putTokens (codes distances : Array (Nat × Nat)) (tokens : Array Token) (w : BitWriter) : BitWriter :=
  (tokens.foldl (putToken codes distances) w).putSymbol codes { code := endOfBlock }

end BitWriter

/-! ## The sizes of blocks -/

/-- How often each symbol is used: those for bytes and lengths, and those for distances. -/
def weightsOf (tokens : Array Token) : Array Nat × Array Nat :=
  let start := (Array.replicate 286 0).setIfInBounds endOfBlock 1
  tokens.foldl (fun ((w, d) : Array Nat × Array Nat) t =>
    match t with
    | .literal b => (w.modify b.toNat (· + 1), d)
    | .copy length distance =>
      (w.modify (lengthSymbol length).code (· + 1), d.modify (distanceSymbol distance).code (· + 1)))
    (start, Array.replicate 30 0)

/-- How many bits symbols take. -/
def bitsWith (extra : Nat → Nat) (weights sizes : Array Nat) : Nat :=
  (List.range weights.size).foldl (fun n i => n + weights.getD i 0 * (sizes.getD i 0 + extra i)) 0

/-- Codes of a block's own, and what tells their sizes. -/
structure OwnCodes where
  sizes : Array Nat
  distanceSizes : Array Nat
  told : List Symbol
  toldSizes : Array Nat
  toldCount : Nat

/-- Sizes up to the last one that is not zero. -/
def usedSizes (sizes : Array Nat) : List Nat := (sizes.toList.reverse.dropWhile (· == 0)).reverse

def OwnCodes.ofWeights (weights distanceWeights : Array Nat) : OwnCodes :=
  let sizes := sizesFor 15 weights
  let distanceSizes := sizesFor 15 distanceWeights
  let told := sizeSymbols (usedSizes sizes) ++ sizeSymbols (usedSizes distanceSizes)
  let toldWeights := told.foldl (fun w s => w.modify s.code (· + 1)) (Array.replicate 19 0)
  let toldSizes := sizesFor 7 toldWeights
  let unused := (sizeOrder.reverse.takeWhile fun n => toldSizes.getD n 0 = 0).length
  { sizes, distanceSizes, told, toldSizes, toldCount := max 4 (19 - unused) }

/-- How many bits are needed to tell the codes. -/
def OwnCodes.toldBits (c : OwnCodes) : Nat :=
  14 + 3 * c.toldCount + c.told.foldl (fun n s => n + c.toldSizes.getD s.code 0 + s.extraBits) 0

def bytesFor (bits : Nat) : Nat := (bits + 10) / 8

/-- Write a block; `isLast` says that it is the last one. -/
def putBlock (data : ByteArray) (isLast : Bool) (b : Block) (w : BitWriter) : BitWriter :=
  let (weights, distanceWeights) := weightsOf b.tokens
  let own := OwnCodes.ofWeights weights distanceWeights
  let bits (sizes distanceSizes : Array Nat) : Nat :=
    bitsWith extraOfLengthCode weights sizes + bitsWith extraOfDistanceCode distanceWeights distanceSizes
  let ownBytes := bytesFor (own.toldBits + bits own.sizes own.distanceSizes)
  let fixedBytes := bytesFor (bits fixedSizes fixedDistanceSizes)
  let length := b.stop - b.start
  let mark := if isLast then 1 else 0
  if b.isHeld ∧ length + 4 ≤ min ownBytes fixedBytes then
    let w := (w.put mark 3).align
    let w := (w.put length 16).put (0xFFFF - length) 16
    (List.range length).foldl (fun w i =>
      let i := b.start + i
      w.putByte (if h : i < data.size then data[i] else 0)) w
  else if fixedBytes ≤ ownBytes then
    (w.put (2 + mark) 3).putTokens (codesOf 15 fixedSizes) (codesOf 15 fixedDistanceSizes) b.tokens
  else
    let w := w.put (4 + mark) 3
    let w := (w.put ((usedSizes own.sizes).length - 257) 5).put ((usedSizes own.distanceSizes).length - 1) 5
    let w := w.put (own.toldCount - 4) 4
    let w := (sizeOrder.take own.toldCount).foldl (fun w n => w.put (own.toldSizes.getD n 0) 3) w
    let w := own.told.foldl (fun w s => w.putSymbol (codesOf 7 own.toldSizes) s) w
    w.putTokens (codesOf 15 own.sizes) (codesOf 15 own.distanceSizes) b.tokens

/-- Compress text. -/
def compress (level : Nat) (data : ByteArray) : ByteArray :=
  let blocks := blocksOf level data
  let (w, _) := blocks.foldl (fun ((w, n) : BitWriter × Nat) b =>
    (putBlock data (n + 1 = blocks.size) b w, n + 1)) (({} : BitWriter), 0)
  w.align.bytes

end KarelBuild.Shell.Utility.Deflate
