import KarelBuild.Shell.Utility.Digests.Basic

/-!
# Digests of words with 64 bits
-/

namespace KarelBuild.Shell.Utility.Digests

def rotateLong (x : UInt64) (n : UInt64) : UInt64 := (x >>> n) ||| (x <<< (64 - n))

/-- The sixteen words of a block. -/
def longWordsAt (b : ByteArray) (bigEndian : Bool) (block : Nat) : Array UInt64 :=
  ((List.range 16).map fun i => UInt64.ofNat (numberAt b bigEndian 8 (128 * block + 8 * i))).toArray

/-! ## Blocks that are added to the state -/

def sha512Rounds (w : Array UInt64) : (left i : Nat) → (a b c d e f g h : UInt64) → List UInt64
  | 0, _, a, b, c, d, e, f, g, h => [a, b, c, d, e, f, g, h]
  | n + 1, i, a, b, c, d, e, f, g, h =>
    let s1 := rotateLong e 14 ^^^ rotateLong e 18 ^^^ rotateLong e 41
    let t1 := h + s1 + ((e &&& f) ^^^ (~~~e &&& g)) + cubeRoots.getD i 0 + w.getD i 0
    let s0 := rotateLong a 28 ^^^ rotateLong a 34 ^^^ rotateLong a 39
    let t2 := s0 + ((a &&& b) ^^^ (a &&& c) ^^^ (b &&& c))
    sha512Rounds w n (i + 1) (t1 + t2) a b c (d + t1) e f g

/-- The words of a block, with those that are mixed from them. -/
def sha512Words (w : Array UInt64) : Array UInt64 :=
  (List.range 64).foldl (fun w i =>
    let x := w.getD (i + 1) 0
    let y := w.getD (i + 14) 0
    let s0 := rotateLong x 1 ^^^ rotateLong x 8 ^^^ (x >>> 7)
    let s1 := rotateLong y 19 ^^^ rotateLong y 61 ^^^ (y >>> 6)
    w.push (w.getD i 0 + s0 + w.getD (i + 9) 0 + s1)) w

def sha512From (start : List UInt64) (o : Octets) : List UInt64 :=
  let b := padded 128 16 true o
  (List.range (b.size / 128)).foldl (fun h block =>
    match h with
    | [a, b', c, d, e, f, g, k] =>
      let mixed := sha512Rounds (sha512Words (longWordsAt b true block)) 80 0 a b' c d e f g k
      (h.zip mixed).map fun (x, y) => x + y
    | h => h) start

def hexLongWords (words : List UInt64) : Octets := words.flatMap fun w => hexNumber true 8 w.toNat

def sha512 (o : Octets) : Octets := hexLongWords (sha512From (squareRoots.toList.take 8) o)

def sha384 (o : Octets) : Octets := hexLongWords ((sha512From (squareRoots.toList.drop 8) o).take 6)

/-! ## Blocks that are mixed with their count -/

/-- The orders in which the words of a block are used, round by round. -/
def wordOrders : Array (Array Nat) := #[
  #[0, 1, 2, 3, 4, 5, 6, 7, 8, 9, 10, 11, 12, 13, 14, 15],
  #[14, 10, 4, 8, 9, 15, 13, 6, 1, 12, 0, 2, 11, 7, 5, 3],
  #[11, 8, 12, 0, 5, 2, 15, 13, 10, 14, 3, 6, 7, 1, 9, 4],
  #[7, 9, 3, 1, 13, 12, 11, 14, 2, 6, 5, 10, 4, 0, 15, 8],
  #[9, 0, 5, 7, 2, 4, 10, 15, 14, 1, 11, 12, 6, 8, 3, 13],
  #[2, 12, 6, 10, 0, 11, 8, 3, 4, 13, 7, 5, 15, 14, 1, 9],
  #[12, 5, 1, 15, 14, 13, 4, 10, 0, 7, 6, 3, 9, 2, 8, 11],
  #[13, 11, 7, 14, 12, 1, 3, 9, 5, 0, 15, 4, 8, 6, 2, 10],
  #[6, 15, 14, 9, 11, 3, 0, 8, 12, 2, 13, 7, 1, 4, 10, 5],
  #[10, 2, 8, 4, 7, 6, 1, 5, 15, 11, 9, 14, 3, 12, 13, 0]]

/-- Mix four words of the state with two of the block. -/
def mixFour (v : Array UInt64) (a b c d : Nat) (x y : UInt64) : Array UInt64 :=
  let get (i : Nat) : UInt64 := v.getD i 0
  let va := get a + get b + x
  let vd := rotateLong (get d ^^^ va) 32
  let vc := get c + vd
  let vb := rotateLong (get b ^^^ vc) 24
  let va := va + vb + y
  let vd := rotateLong (vd ^^^ va) 16
  let vc := vc + vd
  let vb := rotateLong (vb ^^^ vc) 63
  (((v.setIfInBounds a va).setIfInBounds b vb).setIfInBounds c vc).setIfInBounds d vd

/-- The columns and diagonals of the state. -/
def fours : List (Nat × Nat × Nat × Nat) :=
  [(0, 4, 8, 12), (1, 5, 9, 13), (2, 6, 10, 14), (3, 7, 11, 15),
    (0, 5, 10, 15), (1, 6, 11, 12), (2, 7, 8, 13), (3, 4, 9, 14)]

/-- Mix a block into the state; `taken` is how many bytes have been read with it. -/
def mixBlock (h : List UInt64) (w : Array UInt64) (taken : Nat) (isLast : Bool) : List UInt64 :=
  let start := (h ++ squareRoots.toList.take 8).toArray
  let start := start.modify 12 (· ^^^ UInt64.ofNat taken)
  let start := if isLast then start.modify 14 (~~~·) else start
  let v := (List.range 12).foldl (fun v round =>
    let order := wordOrders.getD (round % 10) #[]
    (fours.zipIdx).foldl (fun v ((a, b, c, d), i) =>
      mixFour v a b c d (w.getD (order.getD (2 * i) 0) 0) (w.getD (order.getD (2 * i + 1) 0) 0)) v) start
  (h.zipIdx).map fun (x, i) => x ^^^ v.getD i 0 ^^^ v.getD (i + 8) 0

/-- The digest with so many bytes. -/
def blake2b (size : Nat) (o : Octets) : Octets :=
  let b := bytesOf o
  let blocks := max 1 ((b.size + 127) / 128)
  let start := (squareRoots.toList.take 8).zipIdx.map fun (x, i) =>
    if i = 0 then x ^^^ 0x01010000 ^^^ UInt64.ofNat size else x
  let h := (List.range blocks).foldl (fun h i =>
    mixBlock h (longWordsAt b false i) (min b.size (128 * (i + 1))) (i + 1 == blocks)) start
  (h.flatMap fun w => hexNumber false 8 w.toNat).take (2 * size)

end KarelBuild.Shell.Utility.Digests
