import KarelBuild.Text

/-!
# UTF-8

Files and pipes hold bytes. Writing encodes; reading decodes, and where the bytes are not UTF-8
each longest start of a sequence that can no longer be completed becomes one replacement
character.
-/

namespace KarelBuild

abbrev Bytes := List UInt8

namespace Utf8

def encode (t : Text) : Bytes := t.flatMap String.utf8EncodeChar

def replacement : Char := '\uFFFD'

/-- A sequence begun: the bits read, how many bytes are missing, and the bounds of the next one. -/
structure Pending where
  bits : Nat
  missing : Nat
  low : Nat
  high : Nat

/-- What a byte means where a character starts. -/
inductive Lead where
  | whole (c : Char)
  | opens (p : Pending)
  | wrong

/-- The narrower bounds after `E0`, `ED`, `F0` and `F4` shut out overlong forms, surrogates and
numbers above the last code point. -/
def lead (b : UInt8) : Lead :=
  let n := b.toNat
  if n < 0x80 then .whole (Char.ofNat n)
  else if n < 0xC2 then .wrong
  else if n < 0xE0 then .opens ⟨n - 0xC0, 1, 0x80, 0xBF⟩
  else if n < 0xF0 then
    .opens ⟨n - 0xE0, 2, if n = 0xE0 then 0xA0 else 0x80, if n = 0xED then 0x9F else 0xBF⟩
  else if n < 0xF5 then
    .opens ⟨n - 0xF0, 3, if n = 0xF0 then 0x90 else 0x80, if n = 0xF4 then 0x8F else 0xBF⟩
  else .wrong

def decodeFrom : Option Pending → Bytes → Text
  | none, [] => []
  | some _, [] => [replacement]
  | none, b :: r =>
    match lead b with
    | .whole c => c :: decodeFrom none r
    | .opens p => decodeFrom (some p) r
    | .wrong => replacement :: decodeFrom none r
  | some p, b :: r =>
    if p.low ≤ b.toNat ∧ b.toNat ≤ p.high then
      let bits := p.bits * 64 + b.toNat % 64
      if p.missing = 1 then Char.ofNat bits :: decodeFrom none r
      else decodeFrom (some ⟨bits, p.missing - 1, 0x80, 0xBF⟩) r
    else
      match lead b with
      | .whole c => replacement :: c :: decodeFrom none r
      | .opens q => replacement :: decodeFrom (some q) r
      | .wrong => replacement :: replacement :: decodeFrom none r

def decode (b : Bytes) : Text := decodeFrom none b

/-- Only well-formed bytes come back from decoding and encoding. -/
def decode? (b : Bytes) : Option Text :=
  if encode (decode b) = b then some (decode b) else none

/-- The length that limits on file names and paths are about. -/
def size (t : Text) : Nat := (encode t).length

end Utf8

/-! ## Octets

Bytes can be handled as text: each byte is the character of the same number. What goes in by its
UTF-8 form comes out decoded.
-/

/-- Text whose characters are bytes. -/
abbrev Octets := Text

/-- All numbers added up. -/
def sumOf (ns : List Nat) : Nat := ns.foldl (· + ·) 0

namespace Octets

def ofBytes (b : Bytes) : Octets := b.map fun n => Char.ofNat n.toNat

def toBytes (o : Octets) : Bytes := o.map fun c => UInt8.ofNat c.toNat

def ofText (t : Text) : Octets := ofBytes (Utf8.encode t)

def toText (o : Octets) : Text := Utf8.decode (toBytes o)

end Octets

end KarelBuild
