import KarelBuild.Shell.Utility.Deflate.Codes

/-!
# Reading compressed text

Bits are taken from the lowest one of each byte on. A code is read bit by bit, until it is one of those of its size.
-/

namespace KarelBuild.Shell.Utility.Deflate

/-- Why compressed text cannot be read on: it ends too early, or it means nothing. -/
inductive Fault where
  | ended
  | invalid
  deriving DecidableEq, Repr

/-- Compressed text, the next bit of it, and what has been read from it. -/
structure Reader where
  data : ByteArray
  place : Nat
  out : ByteArray := ByteArray.empty

namespace Reader

/-- A number of so many bits. -/
def take (bits : Nat) : Reader → Except Fault (Nat × Reader)
  | ⟨data, place, out⟩ =>
    if 8 * data.size < place + bits then .error .ended
    else
      let n := (List.range bits).foldl (fun n i =>
        let j := place + i
        let byte := if h : j / 8 < data.size then data[j / 8].toNat else 0
        n + ((byte >>> (j % 8)) % 2) <<< i) 0
      .ok (n, ⟨data, place + bits, out⟩)

end Reader

/-- Codes as they are read: how many there are of each size, and their symbols in order. -/
structure CodeBook where
  counts : Array Nat
  symbols : Array Nat

/-- The codes of some sizes; there may not be too many of them, and too few only if there is a single short one or
none at all. -/
def CodeBook.ofSizes? (most : Nat) (sizes : Array Nat) : Option CodeBook :=
  let counts := sizeCounts most sizes
  let free := (List.range most).foldl (fun (free : Int) i => 2 * free - (counts.getD (i + 1) 0 : Int)) 1
  let fits := ((List.range most).foldl (fun ((fits, free) : Bool × Int) i =>
    let free := 2 * free - (counts.getD (i + 1) 0 : Int)
    (fits && 0 ≤ free, free)) (true, 1)).1
  let longest := ((List.range (most + 1)).reverse.find? fun n => counts.getD n 0 ≠ 0).getD 0
  if !fits then none
  else if free ≠ 0 ∧ 1 < longest then none
  else
    let symbols := (List.range most).foldl (fun (symbols : Array Nat) i =>
      (List.range sizes.size).foldl (fun symbols n =>
        if sizes.getD n 0 = i + 1 then symbols.push n else symbols) symbols) #[]
    some { counts, symbols }

/-- The next symbol: `first` and `before` are the first code of a size and the number of shorter ones. -/
def nextSymbol (b : CodeBook) : (sizes : Nat) → (size code first before : Nat) → Reader →
    Except Fault (Nat × Reader)
  | 0, _, _, _, _, _ => .error .invalid
  | k + 1, size, code, first, before, ⟨data, place, out⟩ =>
    if h : place / 8 < data.size then
      let bit := (data[place / 8].toNat >>> (place % 8)) % 2
      let code := code + bit
      let count := b.counts.getD size 0
      if code < first + count then .ok (b.symbols.getD (before + (code - first)) 0, ⟨data, place + 1, out⟩)
      else nextSymbol b k (size + 1) (2 * code) (2 * (first + count)) (before + count) ⟨data, place + 1, out⟩
    else .error .ended

def CodeBook.next (b : CodeBook) (r : Reader) : Except Fault (Nat × Reader) :=
  nextSymbol b (b.counts.size - 1) 1 0 0 0 r

/-- Repeat what stands some distance before. -/
def copyBack (length distance : Nat) (out : ByteArray) : ByteArray :=
  (List.range length).foldl (fun out _ =>
    let i := out.size - distance
    out.push (if h : distance ≤ out.size ∧ i < out.size then out[i] else 0)) out

/-- Read symbols up to the end of a block. What has been read goes with a fault. -/
def readTokens (codes distances : CodeBook) : (fuel : Nat) → Reader → Except (Fault × ByteArray) Reader
  | 0, r => .error (.invalid, r.out)
  | fuel + 1, ⟨data, place, out⟩ =>
    match codes.next ⟨data, place, ByteArray.empty⟩ with
    | .error e => .error (e, out)
    | .ok (code, ⟨_, place, _⟩) =>
      if code < 256 then readTokens codes distances fuel ⟨data, place, out.push (UInt8.ofNat code)⟩
      else if code = endOfBlock then .ok ⟨data, place, out⟩
      else
        let copy : Except Fault (Nat × Nat × Nat) := do
          let some (start, bits) := lengthOfSymbol? code | .error .invalid
          let (extra, r) ← (⟨data, place, ByteArray.empty⟩ : Reader).take bits
          let length := start + extra
          let (code, r) ← distances.next r
          let some (start, bits) := distanceOfSymbol? code | .error .invalid
          let (extra, r) ← r.take bits
          return (length, start + extra, r.place)
        match copy with
        | .error e => .error (e, out)
        | .ok (length, distance, place) =>
          readTokens codes distances fuel ⟨data, place, copyBack length distance out⟩

/-- Read so many sizes, some of which are repeated. -/
def readSizes (b : CodeBook) (count : Nat) : (fuel : Nat) → Reader → (sizes : Array Nat) →
    Except Fault (Array Nat × Reader)
  | 0, _, _ => .error .invalid
  | fuel + 1, r, sizes =>
    if sizes.size = count then .ok (sizes, r)
    else do
      let (code, r) ← b.next r
      if code < 16 then readSizes b count fuel r (sizes.push code)
      else
        let (bits, least, size) := match code with
          | 16 => (2, 3, sizes.back?.getD 0)
          | 17 => (3, 3, 0)
          | _ => (7, 11, 0)
        let (extra, r) ← r.take bits
        let sizes := sizes ++ Array.replicate (least + extra) size
        if count < sizes.size then .error .invalid else readSizes b count fuel r sizes

/-- The codes that stand in front of a block. -/
def readCodes (r : Reader) : Except Fault (CodeBook × CodeBook × Reader) := do
  let (n, r) ← r.take 5
  let (d, r) ← r.take 5
  let (k, r) ← r.take 4
  if 286 < 257 + n ∨ 30 < 1 + d then .error .invalid
  else
    let (sizes, r) ← (sizeOrder.take (4 + k)).foldlM (fun ((sizes, r) : Array Nat × Reader) i => do
      let (size, r) ← r.take 3
      return (sizes.setIfInBounds i size, r)) (Array.replicate 19 0, r)
    let some b := CodeBook.ofSizes? 7 sizes | .error .invalid
    let (sizes, r) ← readSizes b (258 + n + d) 400 r #[]
    let some codes := CodeBook.ofSizes? 15 (sizes.extract 0 (257 + n)) | .error .invalid
    let some distances := CodeBook.ofSizes? 15 (sizes.extract (257 + n) sizes.size) | .error .invalid
    return (codes, distances, r)

/-- Read a block that is written as it is. -/
def readStored : Reader → Except (Fault × ByteArray) Reader
  | ⟨data, place, out⟩ =>
    let i := (place + 7) / 8
    let number (i : Nat) : Nat :=
      (if h : i < data.size then data[i].toNat else 0) + 256 * (if h : i + 1 < data.size then data[i + 1].toNat else 0)
    if data.size < i + 4 then .error (.ended, out)
    else
      let length := number i
      if number (i + 2) ≠ 0xFFFF - length then .error (.invalid, out)
      else
        let text := data.extract (i + 4) (i + 4 + length)
        if text.size < length then .error (.ended, out ++ text)
        else .ok ⟨data, 8 * (i + 4 + length), out ++ text⟩

/-- Read blocks up to the last one. -/
def readBlocks : (fuel : Nat) → Reader → Except (Fault × ByteArray) Reader
  | 0, r => .error (.invalid, r.out)
  | fuel + 1, ⟨data, place, out⟩ =>
    let bare : Reader := ⟨data, place, ByteArray.empty⟩
    match bare.take 3 with
    | .error e => .error (e, out)
    | .ok (head, r) =>
      let isLast := head % 2 = 1
      let symbols := 8 * data.size + 1
      let block : Except (Fault × ByteArray) Reader :=
        match head / 2 with
        | 0 => readStored ⟨data, r.place, out⟩
        | 1 =>
          match CodeBook.ofSizes? 15 fixedSizes, CodeBook.ofSizes? 15 (fixedDistanceSizes ++ #[5, 5]) with
          | some codes, some distances => readTokens codes distances symbols ⟨data, r.place, out⟩
          | _, _ => .error (.invalid, out)
        | 2 =>
          match readCodes r with
          | .error e => .error (e, out)
          | .ok (codes, distances, r) => readTokens codes distances symbols ⟨data, r.place, out⟩
        | _ => .error (.invalid, out)
      match block with
      | .error e => .error e
      | .ok r => if isLast then .ok r else readBlocks fuel r

/-- Read compressed text from a byte on. Gives the text and the place of the byte behind it. -/
def extract (data : ByteArray) (start : Nat) : Except (Fault × ByteArray) (ByteArray × Nat) :=
  match readBlocks (8 * data.size + 1) { data, place := 8 * start } with
  | .error e => .error e
  | .ok r => .ok (r.out, (r.place + 7) / 8)

end KarelBuild.Shell.Utility.Deflate
