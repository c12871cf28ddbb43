import KarelBuild.Shell.Utility.Basic

/-!
# Messages for digests

A message is filled up to whole blocks: behind it stand a bit that is set, as many zeros as are needed, and the
number of its bits. The numbers that digests start from are digits of roots of primes behind the point.
-/

namespace KarelBuild.Shell.Utility.Digests

/-- The bytes of a text. -/
def bytesOf (o : Octets) : ByteArray := o.foldl (fun b c => b.push (UInt8.ofNat c.toNat)) ByteArray.empty

/-- A message in blocks of some size, with the number of its bits in so many bytes at the end. -/
def padded (blockSize lengthSize : Nat) (bigEndian : Bool) (o : Octets) : ByteArray :=
  let b := bytesOf o
  let bits := 8 * b.size
  let zeros := (2 * blockSize - 1 - lengthSize - b.size % blockSize) % blockSize
  let places := (List.range lengthSize).map fun i => bits >>> (8 * i) % 256
  let tail := 0x80 :: List.replicate zeros 0 ++ (if bigEndian then places.reverse else places)
  tail.foldl (fun b n => b.push (UInt8.ofNat n)) b

/-- The byte at a place, or zero behind the end. -/
def byteAt (b : ByteArray) (i : Nat) : Nat := if h : i < b.size then b[i].toNat else 0

/-- The number that so many bytes from a place on make up. -/
def numberAt (b : ByteArray) (bigEndian : Bool) (size start : Nat) : Nat :=
  (List.range size).foldl (fun n i =>
    n * 256 + byteAt b (start + (if bigEndian then i else size - 1 - i))) 0

/-- A number in hexadecimal digits, byte by byte. -/
def hexNumber (bigEndian : Bool) (size n : Nat) : Octets :=
  let bytes := (List.range size).map fun i => n >>> (8 * i) % 256
  (if bigEndian then bytes.reverse else bytes).flatMap fun b =>
    [Nat.digitChar (b / 16), Nat.digitChar (b % 16)]

/-! ## Roots of primes -/

def isPrime (n : Nat) : Bool := n ≥ 2 && (List.range n).all fun d => d < 2 || n % d != 0

/-- The first primes. -/
def primes (count : Nat) : List Nat := ((List.range 512).filter isPrime).take count

/-- The largest number whose power is no larger than another. -/
def root (degree n : Nat) : Nat :=
  (List.range 80).foldr (fun i r =>
    let r' := r + (1 <<< i)
    if Nat.pow r' degree ≤ n then r' else r) 0

/-- The first 64 binary digits behind the point of a root. -/
def rootDigits (degree p : Nat) : UInt64 := UInt64.ofNat (root degree (p <<< (64 * degree)))

/-- Of the square roots of the first primes. -/
def squareRoots : Array UInt64 := ((primes 16).map (rootDigits 2)).toArray

/-- Of the cube roots of the first primes. -/
def cubeRoots : Array UInt64 := ((primes 80).map (rootDigits 3)).toArray

def highHalf (x : UInt64) : UInt32 := (x >>> 32).toUInt32

def lowHalf (x : UInt64) : UInt32 := x.toUInt32

end KarelBuild.Shell.Utility.Digests
