import BundleInstaller.Text.Utf8

/-!
# Text as octets and back

A text that was written as UTF-8 is read back as it was.  The octets of a character are told from
each other by their high bits: the first one says how many follow it, and where the value of the
character may start, which leaves out what takes fewer octets and the surrogates.

* `scan_encodeChar`: the octets of a character are taken for that character.
* `decode_ofString`: a text is read from its octets.
-/

namespace BundleInstaller.Text.Utf8

theorem toNat_toUInt8 {n : Nat} (h : n < 256) : n.toUInt8.toNat = n :=
  UInt8.toNat_ofNat_of_lt' h

theorem toUInt8_le_iff {m n : Nat} (hm : m < 256) (hn : n < 256) :
    m.toUInt8 ≤ n.toUInt8 ↔ m ≤ n := by
  rw [UInt8.le_iff_toNat_le, toNat_toUInt8 hm, toNat_toUInt8 hn]

theorem toUInt8_lt_iff {n : Nat} (h : n < 256) : n.toUInt8 < 0x80 ↔ n < 0x80 := by
  rw [UInt8.lt_iff_toNat_lt, toNat_toUInt8 h]
  exact Iff.rfl

theorem scanTail_cons {bits lo hi m seen left : Nat} {rest : Bytes} (hm : m < 256) (hhi : hi < 256)
    (h : lo ≤ m ∧ m ≤ hi) :
    scanTail bits lo.toUInt8 hi.toUInt8 seen (left + 1) (m.toUInt8 :: rest) =
      scanTail (bits * 64 + m % 64) 0x80 0xBF (seen + 1) left rest := by
  rw [scanTail, if_pos ⟨(toUInt8_le_iff (by omega) hm).mpr h.1, (toUInt8_le_iff hm hhi).mpr h.2⟩,
    toNat_toUInt8 hm]

theorem scanTail_follow (bits n seen left : Nat) (rest : Bytes) :
    scanTail bits 0x80 0xBF seen (left + 1) ((0x80 + n % 64).toUInt8 :: rest) =
      scanTail (bits * 64 + n % 64) 0x80 0xBF (seen + 1) left rest := by
  have h : scanTail bits 0x80 0xBF seen (left + 1) ((0x80 + n % 64).toUInt8 :: rest) =
      scanTail (bits * 64 + (0x80 + n % 64) % 64) 0x80 0xBF (seen + 1) left rest :=
    scanTail_cons (by omega) (by decide)
      (show 0x80 ≤ 0x80 + n % 64 ∧ 0x80 + n % 64 ≤ 0xBF by omega)
  rwa [show (0x80 + n % 64) % 64 = n % 64 by omega] at h

/-! ## The first octet -/

theorem tailOf_two : ∀ b < 0xE0, 0xC2 ≤ b → tailOf b.toUInt8 = some (0x80, 0xBF, 1) := by
  decide +kernel

theorem tailOf_three : ∀ b < 0xF0, 0xE0 ≤ b → tailOf b.toUInt8 =
    some ((if b = 0xE0 then 0xA0 else 0x80).toUInt8,
      (if b = 0xED then 0x9F else 0xBF).toUInt8, 2) := by
  decide +kernel

theorem tailOf_four : ∀ b < 0xF5, 0xF0 ≤ b → tailOf b.toUInt8 =
    some ((if b = 0xF0 then 0x90 else 0x80).toUInt8,
      (if b = 0xF4 then 0x8F else 0xBF).toUInt8, 3) := by
  decide +kernel

theorem scan_of_lt {n : Nat} (h : n < 0x80) (rest : Bytes) :
    scan n.toUInt8 rest = .char (Char.ofNat n) 0 := by
  unfold scan
  rw [if_pos ((toUInt8_lt_iff (by omega)).mpr h), toNat_toUInt8 (by omega)]

theorem scan_of_tailOf {b left : Nat} {rest : Bytes} {lo hi : UInt8} (hlow : 0x80 ≤ b)
    (hhigh : b < 256) (h : tailOf b.toUInt8 = some (lo, hi, left)) :
    scan b.toUInt8 rest =
      scanTail (b % (if left = 1 then 32 else if left = 2 then 16 else 8)) lo hi 0 left rest := by
  unfold scan
  rw [if_neg (mt (toUInt8_lt_iff hhigh).mp (by omega)), h]
  dsimp only
  rw [toNat_toUInt8 hhigh]

/-! ## Characters -/

/-- **The octets of a character are taken for that character.** -/
theorem scan_encodeChar (c : Char) (rest : Bytes) : ∃ b tail, encodeChar c = b :: tail ∧
    scan b (tail ++ rest) = .char c tail.length := by
  have hchar : Char.ofNat c.toNat = c := Char.ofNat_toNat c
  have hvalid : c.toNat < 0xD800 ∨ 0xDFFF < c.toNat ∧ c.toNat < 0x110000 := c.valid
  unfold encodeChar
  generalize c.toNat = n at *
  dsimp only
  split
  · next hone =>
    refine ⟨_, _, rfl, ?_⟩
    rw [scan_of_lt hone, hchar]
    rfl
  split
  · next hone htwo =>
    refine ⟨_, _, rfl, ?_⟩
    have hbits : (0xC0 + n / 64) % 32 * 64 + n % 64 = n := by omega
    rw [scan_of_tailOf (by omega) (by omega) (tailOf_two _ (by omega) (by omega)), if_pos rfl,
      List.cons_append, scanTail_follow, hbits, scanTail, hchar]
    rfl
  split
  · next hone htwo hthree =>
    refine ⟨_, _, rfl, ?_⟩
    have hbits : ((0xE0 + n / 4096) % 16 * 64 + (0x80 + n / 64 % 64) % 64) * 64 + n % 64 = n := by
      omega
    rw [scan_of_tailOf (by omega) (by omega) (tailOf_three _ (by omega) (by omega)),
      if_neg (by decide), if_pos rfl, List.cons_append, List.cons_append,
      scanTail_cons (by omega) (by split <;> omega) (by split <;> split <;> omega),
      scanTail_follow, hbits, scanTail, hchar]
    rfl
  · next hone htwo hthree =>
    refine ⟨_, _, rfl, ?_⟩
    have hbits : (((0xF0 + n / 262144) % 8 * 64 + (0x80 + n / 4096 % 64) % 64) * 64 +
        n / 64 % 64) * 64 + n % 64 = n := by
      omega
    rw [scan_of_tailOf (by omega) (by omega) (tailOf_four _ (by omega) (by omega)),
      if_neg (by decide), if_neg (by decide), List.cons_append, List.cons_append,
      List.cons_append,
      scanTail_cons (by omega) (by split <;> omega) (by split <;> split <;> omega),
      scanTail_follow, scanTail_follow, hbits, scanTail, hchar]
    rfl

/-! ## Texts -/

theorem decodeFrom_encode (cs : List Char) (offset : Nat) :
    decodeFrom offset (encode cs) = .ok cs := by
  induction cs generalizing offset with
  | nil => rw [encode, List.flatMap_nil, decodeFrom]
  | cons c cs ih =>
    obtain ⟨b, tail, hchar, hscan⟩ := scan_encodeChar c (encode cs)
    rw [encode, List.flatMap_cons, hchar, List.cons_append, ← encode, decodeFrom, hscan]
    dsimp only
    rw [List.drop_left, ih]
    rfl

/-- **A text is read from its octets.** -/
theorem decode_ofString (s : String) : decode (ofString s) = .ok s := by
  rw [decode, ofString, decodeFrom_encode]
  exact congrArg Except.ok String.ofList_toList

end BundleInstaller.Text.Utf8
