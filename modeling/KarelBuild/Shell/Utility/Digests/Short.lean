import KarelBuild.Shell.Utility.Digests.Basic

/-!
# Digests of words with 32 bits

Each block of a message changes the state in rounds that mix words of the block into it; then the state from
before is added. Words wrap around.
-/

namespace KarelBuild.Shell.Utility.Digests

def rotateLeft (x : UInt32) (n : UInt32) : UInt32 := (x <<< n) ||| (x >>> (32 - n))

def rotateRight (x : UInt32) (n : UInt32) : UInt32 := (x >>> n) ||| (x <<< (32 - n))

/-- The sixteen words of a block. -/
def wordsAt (b : ByteArray) (bigEndian : Bool) (block : Nat) : Array UInt32 :=
  ((List.range 16).map fun i => UInt32.ofNat (numberAt b bigEndian 4 (64 * block + 4 * i))).toArray

/-- The words of a block, with those that are mixed from them. -/
def extended (count : Nat) (next : Array UInt32 → Nat → UInt32) (w : Array UInt32) : Array UInt32 :=
  (List.range count).foldl (fun w i => w.push (next w (i + 16))) w

/-- Let all blocks of a message change a state. -/
def absorb (bigEndian : Bool) (step : List UInt32 → Array UInt32 → List UInt32) (start : List UInt32)
    (message : Octets) : List UInt32 :=
  let b := padded 64 8 bigEndian message
  (List.range (b.size / 64)).foldl (fun h i =>
    (h.zip (step h (wordsAt b bigEndian i))).map fun (x, y) => x + y) start

def hexWords (bigEndian : Bool) (words : List UInt32) : Octets :=
  words.flatMap fun w => hexNumber bigEndian 4 w.toNat

/-! ## With four words -/

/-- The numbers that the rounds add: of the sine of each round. -/
def sineTable : Array UInt32 :=
  ((List.range 64).map fun i => (Float.abs (Float.sin (i + 1).toFloat) * 4294967296).toUInt32).toArray

def md5Shifts : Array UInt32 := #[7, 12, 17, 22, 5, 9, 14, 20, 4, 11, 16, 23, 6, 10, 15, 21]

def md5Rounds (w : Array UInt32) : (left i : Nat) → (a b c d : UInt32) → List UInt32
  | 0, _, a, b, c, d => [a, b, c, d]
  | n + 1, i, a, b, c, d =>
    let (f, k) : UInt32 × Nat :=
      if i < 16 then ((b &&& c) ||| (~~~b &&& d), i)
      else if i < 32 then ((d &&& b) ||| (~~~d &&& c), (5 * i + 1) % 16)
      else if i < 48 then (b ^^^ c ^^^ d, (3 * i + 5) % 16)
      else (c ^^^ (b ||| ~~~d), 7 * i % 16)
    let sum := a + f + sineTable.getD i 0 + w.getD k 0
    md5Rounds w n (i + 1) d (b + rotateLeft sum (md5Shifts.getD (i / 16 * 4 + i % 4) 0)) b c

def md5 (o : Octets) : Octets :=
  let step (h : List UInt32) (w : Array UInt32) : List UInt32 := match h with
    | [a, b, c, d] => md5Rounds w 64 0 a b c d
    | h => h
  hexWords false (absorb false step [0x67452301, 0xefcdab89, 0x98badcfe, 0x10325476] o)

/-! ## With five words -/

def sha1Rounds (w : Array UInt32) : (left i : Nat) → (a b c d e : UInt32) → List UInt32
  | 0, _, a, b, c, d, e => [a, b, c, d, e]
  | n + 1, i, a, b, c, d, e =>
    let (f, k) : UInt32 × UInt32 :=
      if i < 20 then ((b &&& c) ||| (~~~b &&& d), 0x5A827999)
      else if i < 40 then (b ^^^ c ^^^ d, 0x6ED9EBA1)
      else if i < 60 then ((b &&& c) ||| (b &&& d) ||| (c &&& d), 0x8F1BBCDC)
      else (b ^^^ c ^^^ d, 0xCA62C1D6)
    sha1Rounds w n (i + 1) (rotateLeft a 5 + f + e + k + w.getD i 0) a (rotateLeft b 30) c d

def sha1 (o : Octets) : Octets :=
  let next (w : Array UInt32) (i : Nat) : UInt32 :=
    rotateLeft (w.getD (i - 3) 0 ^^^ w.getD (i - 8) 0 ^^^ w.getD (i - 14) 0 ^^^ w.getD (i - 16) 0) 1
  let step (h : List UInt32) (w : Array UInt32) : List UInt32 := match h with
    | [a, b, c, d, e] => sha1Rounds (extended 64 next w) 80 0 a b c d e
    | h => h
  hexWords true (absorb true step [0x67452301, 0xEFCDAB89, 0x98BADCFE, 0x10325476, 0xC3D2E1F0] o)

/-! ## With eight words -/

def sha256Constants : Array UInt32 := cubeRoots.map highHalf

def sha256Rounds (w : Array UInt32) : (left i : Nat) → (a b c d e f g h : UInt32) → List UInt32
  | 0, _, a, b, c, d, e, f, g, h => [a, b, c, d, e, f, g, h]
  | n + 1, i, a, b, c, d, e, f, g, h =>
    let s1 := rotateRight e 6 ^^^ rotateRight e 11 ^^^ rotateRight e 25
    let t1 := h + s1 + ((e &&& f) ^^^ (~~~e &&& g)) + sha256Constants.getD i 0 + w.getD i 0
    let s0 := rotateRight a 2 ^^^ rotateRight a 13 ^^^ rotateRight a 22
    let t2 := s0 + ((a &&& b) ^^^ (a &&& c) ^^^ (b &&& c))
    sha256Rounds w n (i + 1) (t1 + t2) a b c (d + t1) e f g

def sha256From (start : List UInt32) (o : Octets) : List UInt32 :=
  let next (w : Array UInt32) (i : Nat) : UInt32 :=
    let x := w.getD (i - 15) 0
    let y := w.getD (i - 2) 0
    let s0 := rotateRight x 7 ^^^ rotateRight x 18 ^^^ (x >>> 3)
    let s1 := rotateRight y 17 ^^^ rotateRight y 19 ^^^ (y >>> 10)
    w.getD (i - 16) 0 + s0 + w.getD (i - 7) 0 + s1
  let step (h : List UInt32) (w : Array UInt32) : List UInt32 := match h with
    | [a, b, c, d, e, f, g, k] => sha256Rounds (extended 48 next w) 64 0 a b c d e f g k
    | h => h
  absorb true step start o

def sha256 (o : Octets) : Octets :=
  hexWords true (sha256From ((squareRoots.toList.take 8).map highHalf) o)

def sha224 (o : Octets) : Octets :=
  hexWords true ((sha256From ((squareRoots.toList.drop 8).map lowHalf) o).take 7)

end KarelBuild.Shell.Utility.Digests
