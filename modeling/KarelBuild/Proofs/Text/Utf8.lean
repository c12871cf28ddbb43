import KarelBuild.Text.Utf8

/-!
# Decoding

A byte below `80` is a character by itself wherever it stands. A sequence that is still open there
cannot be completed any more, so decoding starts afresh behind it (`decode_plain`). Every text comes
back from its encoding (`decode_encode`).
-/

namespace KarelBuild.Utf8

/-- The next byte of an open sequence is not a character by itself. -/
def Pending.Continues (p : Pending) : Prop := 0x80 ≤ p.low

theorem lead_plain {b : UInt8} (h : b.toNat < 0x80) : lead b = .whole (Char.ofNat b.toNat) := by
  simp [lead, h]

theorem lead_opens {b : UInt8} {p : Pending} (h : lead b = .opens p) : p.Continues := by
  simp only [lead] at h
  unfold Pending.Continues
  split at h
  next => simp at h
  split at h
  next => simp at h
  split at h
  next =>
    obtain rfl := Lead.opens.inj h
    exact Nat.le_refl _
  split at h
  next =>
    obtain rfl := Lead.opens.inj h
    dsimp only
    split <;> omega
  split at h
  next =>
    obtain rfl := Lead.opens.inj h
    dsimp only
    split <;> omega
  next => simp at h

/-- Whatever state the bytes before leave the decoder in, a plain character ends it. -/
theorem decodeFrom_append {state : Option Pending} (hstate : ∀ p ∈ state, p.Continues) (a : Bytes)
    {b : UInt8} (hb : b.toNat < 0x80) (r : Bytes) :
    decodeFrom state (a ++ b :: r) = decodeFrom state a ++ Char.ofNat b.toNat :: decode r := by
  fun_induction decodeFrom state a with
  | case1 => simp [decodeFrom, lead_plain hb, decode]
  | case2 p =>
    have hout : ¬ (p.low ≤ b.toNat ∧ b.toNat ≤ p.high) := by
      have hlow : 0x80 ≤ p.low := hstate p rfl
      omega
    simp [decodeFrom, lead_plain hb, hout, decode]
  | case3 d a c hc ih => simpa [decodeFrom, hc] using ih (by simp)
  | case4 d a p hp ih => simpa [decodeFrom, hp] using ih (by simpa using lead_opens hp)
  | case5 d a hd ih => simpa [decodeFrom, hd] using ih (by simp)
  | case6 p d a hin bits hlast ih => simpa [decodeFrom, hin, hlast, bits] using ih (by simp)
  | case7 p d a hin bits hlast ih =>
    simpa [decodeFrom, hin, hlast] using ih (by simp [Pending.Continues])
  | case8 p d a hout c hc ih => simpa [decodeFrom, hout, hc] using ih (by simp)
  | case9 p d a hout q hq ih =>
    simpa [decodeFrom, hout, hq] using ih (by simpa using lead_opens hq)
  | case10 p d a hout hd ih => simpa [decodeFrom, hout, hd] using ih (by simp)

theorem decode_plain (a : Bytes) {b : UInt8} (hb : b.toNat < 0x80) (r : Bytes) :
    decode (a ++ b :: r) = decode a ++ Char.ofNat b.toNat :: decode r :=
  decodeFrom_append (by simp) a hb r

/-! ## What was encoded -/

theorem lead_two {n : Nat} (hlow : 0xC2 ≤ n) (hhigh : n < 0xE0) :
    lead (UInt8.ofNat n) = .opens ⟨n - 0xC0, 1, 0x80, 0xBF⟩ := by
  simp only [lead, UInt8.toNat_ofNat_of_lt' (Nat.lt_trans hhigh (by decide))]
  rw [if_neg (by omega), if_neg (by omega), if_pos hhigh]

theorem lead_three {n : Nat} (hlow : 0xE0 ≤ n) (hhigh : n < 0xF0) :
    lead (UInt8.ofNat n) = .opens
      ⟨n - 0xE0, 2, if n = 0xE0 then 0xA0 else 0x80, if n = 0xED then 0x9F else 0xBF⟩ := by
  simp only [lead, UInt8.toNat_ofNat_of_lt' (Nat.lt_trans hhigh (by decide))]
  rw [if_neg (by omega), if_neg (by omega), if_neg (by omega), if_pos hhigh]

theorem lead_four {n : Nat} (hlow : 0xF0 ≤ n) (hhigh : n < 0xF5) :
    lead (UInt8.ofNat n) = .opens
      ⟨n - 0xF0, 3, if n = 0xF0 then 0x90 else 0x80, if n = 0xF4 then 0x8F else 0xBF⟩ := by
  simp only [lead, UInt8.toNat_ofNat_of_lt' (Nat.lt_trans hhigh (by decide))]
  rw [if_neg (by omega), if_neg (by omega), if_neg (by omega), if_neg (by omega), if_pos hhigh]

/-- A sequence is begun. -/
theorem decodeFrom_opens {b : UInt8} {p : Pending} (hb : lead b = .opens p) (r : Bytes) :
    decodeFrom none (b :: r) = decodeFrom (some p) r := by
  simp only [decodeFrom, hb]

/-- A byte that an open sequence waits for is taken in. -/
theorem decodeFrom_next {bits missing low high n : Nat} (hn : n < 64) (hlow : low ≤ n + 128)
    (hhigh : n + 128 ≤ high) (r : Bytes) :
    decodeFrom (some ⟨bits, missing, low, high⟩) (UInt8.ofNat (n + 128) :: r) =
      if missing = 1 then Char.ofNat (bits * 64 + n) :: decodeFrom none r
      else decodeFrom (some ⟨bits * 64 + n, missing - 1, 0x80, 0xBF⟩) r := by
  have hbyte : (UInt8.ofNat (n + 128)).toNat = n + 128 :=
    UInt8.toNat_ofNat_of_lt' (show n + 128 < 256 by omega)
  have hmod : (n + 128) % 64 = n := by omega
  simp only [decodeFrom, hbyte, hlow, hhigh, hmod, and_self, ↓reduceIte]

theorem decodeFrom_encodeChar (c : Char) (r : Bytes) :
    decodeFrom none (String.utf8EncodeChar c ++ r) = c :: decodeFrom none r := by
  have hvalid : c.toNat < 0xD800 ∨ (0xDFFF < c.toNat ∧ c.toNat < 0x110000) := c.valid
  have hread {n : Nat} (hn : n = c.toNat) : Char.ofNat n = c := by rw [hn, Char.ofNat_toNat]
  simp only [String.utf8EncodeChar, show c.val.toNat = c.toNat from rfl]
  generalize c.toNat = n at hvalid hread
  split
  next h1 =>
    have hbyte : (UInt8.ofNat n).toNat = n := UInt8.toNat_ofNat_of_lt' (show n < 256 by omega)
    have hlead : lead (UInt8.ofNat n) = .whole c := by
      rw [lead_plain (by omega), hbyte, hread rfl]
    simp only [decodeFrom, List.cons_append, List.nil_append, hlead]
  split
  next h1 h2 =>
    simp only [List.cons_append, List.nil_append]
    rw [decodeFrom_opens (lead_two (by omega) (by omega)),
      decodeFrom_next (by omega) (by omega) (by omega), if_pos rfl, hread (by omega)]
  split
  next h1 h2 h3 =>
    simp only [List.cons_append, List.nil_append]
    rw [decodeFrom_opens (lead_three (by omega) (by omega)),
      decodeFrom_next (by omega) (by split <;> omega) (by split <;> omega), if_neg (by decide),
      decodeFrom_next (by omega) (by omega) (by omega), if_pos rfl, hread (by omega)]
  next h1 h2 h3 =>
    simp only [List.cons_append, List.nil_append]
    rw [decodeFrom_opens (lead_four (by omega) (by omega)),
      decodeFrom_next (by omega) (by split <;> omega) (by split <;> omega), if_neg (by decide),
      decodeFrom_next (by omega) (by omega) (by omega), if_neg (by decide),
      decodeFrom_next (by omega) (by omega) (by omega), if_pos rfl, hread (by omega)]

/-- **What is encoded is decoded again.** -/
theorem decode_encode (t : Text) : decode (encode t) = t := by
  induction t with
  | nil => rfl
  | cons c t ih =>
    rw [encode, List.flatMap_cons, decode, decodeFrom_encodeChar]
    exact congrArg (c :: ·) ih

end KarelBuild.Utf8
