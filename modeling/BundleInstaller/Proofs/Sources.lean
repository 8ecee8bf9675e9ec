import BundleInstaller.Proofs.Octets
import BundleInstaller.Yaml.Source

/-!
# Characters of YAML as octets and back

Octets are read in blocks, but where there is no fault the blocks make no difference: a text in
which every character may stand is read from its octets as it is.

* `readChar_encodeChar`: a character that may stand in a text is read from its octets.
* `ofBytes_ofString`: so is the text.
-/

namespace BundleInstaller.Yaml

open Text.Utf8 (encode encodeChar ofString toNat_toUInt8)

theorem tailBits_cons (bits n seen : Nat) (rest : Bytes) :
    tailBits bits seen ((0x80 + n % 64).toUInt8 :: rest) =
      tailBits (bits * 64 + n % 64) (seen + 1) rest := by
  have hoctet : (0x80 + n % 64).toUInt8.toNat = 0x80 + n % 64 := toNat_toUInt8 (by omega)
  rw [tailBits, hoctet, if_pos (by omega)]
  congr 1
  omega

theorem leadWidth_one : ∀ n < 0x80, leadWidth n.toUInt8 = some (1, n) := by decide +kernel

theorem leadWidth_two : ∀ n < 0x20, leadWidth (0xC0 + n).toUInt8 = some (2, n) := by
  decide +kernel

theorem leadWidth_three : ∀ n < 0x10, leadWidth (0xE0 + n).toUInt8 = some (3, n) := by
  decide +kernel

theorem leadWidth_four : ∀ n < 0x08, leadWidth (0xF0 + n).toUInt8 = some (4, n) := by
  decide +kernel

theorem readChar_of_bits {lead : UInt8} {width first bits : Nat} {tail : Bytes}
    (hlead : leadWidth lead = some (width, first)) (hwidth : tail.length = width - 1)
    (htail : tailBits first 1 tail = .ok bits) (hshort : isShortForm width bits = true)
    (hvalid : bits < 0xD800 ∨ 0xDFFF < bits ∧ bits < 0x110000) (hallowed : isAllowed bits = true)
    (rest : Bytes) (offset : Nat) :
    readChar lead (tail ++ rest) offset = .ok (Char.ofNat bits, tail.length) := by
  have htake : (tail ++ rest).take (width - 1) = tail := by
    rw [← hwidth, List.take_left]
  unfold readChar
  rw [hlead]
  dsimp only
  rw [htake, if_neg (by omega), htail]
  dsimp only
  rw [hshort, if_neg (by decide), if_neg (by omega), hallowed, if_neg (by decide), hwidth]

/-- **A character that may stand in a text is read from its octets.** -/
theorem readChar_encodeChar {c : Char} (h : isAllowed c.toNat = true) (rest : Bytes)
    (offset : Nat) : ∃ b tail, encodeChar c = b :: tail ∧
      readChar b (tail ++ rest) offset = .ok (c, tail.length) := by
  have hchar : Char.ofNat c.toNat = c := Char.ofNat_toNat c
  have hvalid : c.toNat < 0xD800 ∨ 0xDFFF < c.toNat ∧ c.toNat < 0x110000 := c.valid
  unfold encodeChar
  generalize c.toNat = n at *
  subst hchar
  dsimp only
  split
  · next hone =>
    exact ⟨_, _, rfl, readChar_of_bits (leadWidth_one n hone) rfl rfl rfl hvalid h rest offset⟩
  split
  · next hone htwo =>
    have htail : tailBits (n / 64) 1 [(0x80 + n % 64).toUInt8] = .ok n := by
      rw [tailBits_cons, Nat.div_add_mod']
      rfl
    refine ⟨_, _, rfl, readChar_of_bits (leadWidth_two (n / 64) (by omega)) rfl htail ?_ hvalid h
      rest offset⟩
    have hlow : 0x80 ≤ n := by omega
    simp [isShortForm, hlow]
  split
  · next hone htwo hthree =>
    have hbits : (n / 4096 * 64 + n / 64 % 64) * 64 + n % 64 = n := by omega
    have htail : tailBits (n / 4096) 1
        [(0x80 + n / 64 % 64).toUInt8, (0x80 + n % 64).toUInt8] = .ok n := by
      rw [tailBits_cons, tailBits_cons, hbits]
      rfl
    refine ⟨_, _, rfl, readChar_of_bits (leadWidth_three (n / 4096) (by omega)) rfl htail ?_ hvalid
      h rest offset⟩
    have hlow : 0x800 ≤ n := by omega
    simp [isShortForm, hlow]
  · next hone htwo hthree =>
    have hbits : ((n / 262144 * 64 + n / 4096 % 64) * 64 + n / 64 % 64) * 64 + n % 64 = n := by
      omega
    have htail : tailBits (n / 262144) 1 [(0x80 + n / 4096 % 64).toUInt8,
        (0x80 + n / 64 % 64).toUInt8, (0x80 + n % 64).toUInt8] = .ok n := by
      rw [tailBits_cons, tailBits_cons, tailBits_cons, hbits]
      rfl
    refine ⟨_, _, rfl, readChar_of_bits (leadWidth_four (n / 262144) (by omega)) rfl htail ?_
      hvalid h rest offset⟩
    have hlow : 0x10000 ≤ n := by omega
    simp [isShortForm, hlow]

/-- Reading goes on to the end, whatever block it is in. -/
theorem read_encode {cs : List Char} (h : ∀ c ∈ cs, isAllowed c.toNat = true)
    (seen block : List Char) (blockStart offset : Nat) :
    Source.read seen block blockStart offset (encode cs) =
      ⟨(block ++ seen).reverse ++ cs, none⟩ := by
  induction cs generalizing seen block blockStart offset with
  | nil => rw [encode, List.flatMap_nil, Source.read, List.append_nil]
  | cons c cs ih =>
    have hrest := fun c' hc' => h c' (List.mem_cons_of_mem _ hc')
    obtain ⟨b, tail, hchar, hread⟩ := readChar_encodeChar (h c List.mem_cons_self) (encode cs)
      offset
    rw [encode, List.flatMap_cons, hchar, List.cons_append, ← encode, Source.read, hread]
    dsimp only
    rw [List.drop_left]
    -- both ways, the character is put on what was read
    split
    · rw [ih hrest, List.reverse_append, List.append_assoc]
      rfl
    · rw [ih hrest, List.cons_append, List.reverse_cons, List.append_assoc]
      rfl

/-- **A text in which every character may stand is read from its octets.** -/
theorem ofBytes_ofString {s : String} (h : ∀ c ∈ s.toList, isAllowed c.toNat = true) :
    Source.ofBytes (ofString s) = ⟨s.toList, none⟩ :=
  read_encode h [] [] 0 0

end BundleInstaller.Yaml
