import Pipework.Proofs.Utf8

/-!
# Texts written and read back

A text that is written as bytes spells itself (`Utf8.encodes_encode`), so it is decoded to what it
was, and lines that were written one behind the other are read as those lines
(`LineBuffer.lines_written`) unless one would fall apart or lose its end.
-/

namespace Pipework

namespace Utf8

/-! ## Characters -/

theorem toNat_ofNat_byte {n : Nat} (h : n < 256) : (UInt8.ofNat n).toNat = n := by
  rw [UInt8.toNat_ofNat', Nat.mod_eq_of_lt h]

/-- A tail byte that is in its bounds adds its six bits. -/
theorem tails_ofNat {low high : UInt8} {n : Nat} (hlow : low.toNat ≤ n) (hhigh : n ≤ high.toNat)
    (bits width k : Nat) (rest : Bytes) :
    tails low high bits width (k + 1) (UInt8.ofNat n :: rest) =
      tails 0x80 0xBF (bits * 64 + (n - 0x80)) (width + 1) k rest := by
  have hbyte : (UInt8.ofNat n).toNat = n := by
    have := high.toNat_lt
    exact toNat_ofNat_byte (by omega)
  have hbounds : low ≤ UInt8.ofNat n ∧ UInt8.ofNat n ≤ high := by
    simpa only [UInt8.le_iff_toNat_le, hbyte] using ⟨hlow, hhigh⟩
  rw [tails, if_pos hbounds, hbyte]

theorem front_lead {n owed bits : Nat} {low high : UInt8} (hn : 0x80 ≤ n) (hn' : n < 256)
    (h : lead? (UInt8.ofNat n) = some ⟨owed, low, high, bits⟩) (rest : Bytes) :
    front (UInt8.ofNat n) rest = tails low high bits 1 owed rest := by
  have hlong : ¬ UInt8.ofNat n < 0x80 := by
    rw [UInt8.lt_iff_toNat_lt, toNat_ofNat_byte hn']
    exact Nat.not_lt.mpr hn
  rw [front, if_neg hlong, h]

/-- What a leading byte promises, byte by byte. -/
theorem lead?_ofNat : ∀ n : Nat, n < 256 → lead? (UInt8.ofNat n) =
    if 0xC2 ≤ n ∧ n ≤ 0xDF then some ⟨1, 0x80, 0xBF, n - 0xC0⟩
    else if 0xE0 ≤ n ∧ n ≤ 0xEF then
      some ⟨2, if n = 0xE0 then 0xA0 else 0x80, if n = 0xED then 0x9F else 0xBF, n - 0xE0⟩
    else if 0xF0 ≤ n ∧ n ≤ 0xF4 then
      some ⟨3, if n = 0xF0 then 0x90 else 0x80, if n = 0xF4 then 0x8F else 0xBF, n - 0xF0⟩
    else none := by
  intro n hn
  have hbyte := toNat_ofNat_byte hn
  simp only [lead?, UInt8.le_iff_toNat_le, ← UInt8.toNat_inj, hbyte, UInt8.reduceToNat]
  grind

/-- The bytes of a character are read as that character. -/
theorem front_encode (c : Char) : ∃ b tail,
    String.utf8EncodeChar c = b :: tail ∧ front b tail = .char c (tail.length + 1) := by
  have hvalid : c.toNat < 0xD800 ∨ 0xDFFF < c.toNat ∧ c.toNat < 0x110000 := c.valid
  have hchar : ∀ v, v = c.toNat → Char.ofNat v = c := fun v hv => hv ▸ Char.ofNat_toNat c
  have hval : c.val.toNat = c.toNat := rfl
  simp only [String.utf8EncodeChar, hval]
  split
  · rename_i hone
    have hshort : UInt8.ofNat c.toNat < 0x80 := by
      rw [UInt8.lt_iff_toNat_lt, toNat_ofNat_byte (by omega)]
      exact Nat.lt_succ_of_le hone
    refine ⟨_, _, rfl, ?_⟩
    rw [front, if_pos hshort, toNat_ofNat_byte (by omega), hchar _ rfl]
    rfl
  split
  · refine ⟨_, _, rfl, ?_⟩
    have hlead := lead?_ofNat (c.toNat / 64 % 32 + 0xC0) (by omega)
    rw [if_pos (by omega)] at hlead
    rw [front_lead (by omega) (by omega) hlead, tails_ofNat (by simp) (by simp; omega), tails,
      hchar _ (by omega)]
    rfl
  split
  · refine ⟨_, _, rfl, ?_⟩
    have hlead := lead?_ofNat (c.toNat / 4096 % 16 + 0xE0) (by omega)
    rw [if_neg (by omega), if_pos (by omega)] at hlead
    rw [front_lead (by omega) (by omega) hlead, tails_ofNat (by split <;> simp; omega)
      (by split <;> simp <;> omega), tails_ofNat (by simp) (by simp; omega), tails,
      hchar _ (by omega)]
    rfl
  · refine ⟨_, _, rfl, ?_⟩
    have hlead := lead?_ofNat (c.toNat / 262144 % 8 + 0xF0) (by omega)
    rw [if_neg (by omega), if_neg (by omega), if_pos (by omega)] at hlead
    rw [front_lead (by omega) (by omega) hlead, tails_ofNat (by split <;> simp; omega)
      (by split <;> simp <;> omega), tails_ofNat (by simp) (by simp; omega),
      tails_ofNat (by simp) (by simp; omega), tails, hchar _ (by omega)]
    rfl

theorem piece_encode (c : Char) :
    ∃ b tail, String.utf8EncodeChar c = b :: tail ∧ Piece b tail c := by
  obtain ⟨b, tail, hbytes, hfront⟩ := front_encode c
  obtain ⟨tail', rest, rfl, hlength, hpiece⟩ := front_piece hfront
  have hrest : rest = [] := by
    rw [List.length_append] at hlength
    exact List.eq_nil_of_length_eq_zero (by omega)
  subst hrest
  exact ⟨b, tail', by rw [hbytes, List.append_nil], hpiece⟩

/-! ## Texts -/

theorem encode_append (s t : String) : encode (s ++ t) = encode s ++ encode t := by
  rw [encode, String.toList_append, List.flatMap_append]
  rfl

/-- **A text that is written spells itself.** -/
theorem encodes_encode (s : String) : Encodes (encode s) s.toList := by
  rw [encode]
  induction s.toList with
  | nil => exact .nil
  | cons c cs ih =>
    obtain ⟨b, tail, hbytes, hpiece⟩ := piece_encode c
    rw [List.flatMap_cons, hbytes, List.cons_append]
    exact .cons hpiece ih

theorem decodeLossy_encode (s : String) : decodeLossy (encode s) = s := by
  rw [(encodes_encode s).decodeLossy, String.ofList_toList]

theorem encode_injective {s t : String} (h : encode s = encode t) : s = t := by
  rw [← decodeLossy_encode s, h, decodeLossy_encode]

end Utf8

/-! ## Lines -/

/-- A line that is still one line once it is written: it holds no newline, and no carriage return
ends it. -/
def Lines.SingleLine (line : String) : Prop :=
  '\n' ∉ line.toList ∧ line.toList.getLast? ≠ some '\r'

/-- **What is written as one line is read as that line.** -/
theorem LineBuffer.lines_written {line : String} (h : Lines.SingleLine line) (rest : Bytes) :
    lines (Utf8.encode (line ++ "\n") ++ rest) = line :: lines rest := by
  have hspells := Utf8.encodes_encode line
  have hfree : newline ∉ Utf8.encode line := fun hmem =>
    h.1 ((hspells.mem (by decide)).mp hmem)
  have hkept : Lines.dropReturn '\r' line.toList = line.toList :=
    if_neg (by simpa using h.2)
  have hnewline : Utf8.encode "\n" = [newline] := by decide
  rw [Utf8.encode_append, hnewline, List.append_assoc, List.singleton_append, lines,
    Lines.split_append hfree, List.map_cons, hspells.dropReturn.decodeLossy, hkept,
    String.ofList_toList]
  rfl

end Pipework
