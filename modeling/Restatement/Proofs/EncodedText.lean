import Restatement.SyntaxTree

/-!
Text written in UTF-8 is read back without a replacement character, also where it is a part of a
longer text. So a node that covers the bytes of a part of the source has that part as its text.
-/

namespace Restatement

namespace Utf8

theorem scalar (c : Char) : c.toNat < 0xD800 ∨ 0xDFFF < c.toNat ∧ c.toNat < 0x110000 := c.valid

theorem toNat_byte (n : Nat) (small : n < 256) : (UInt8.ofNat n).toNat = n := by
  rw [UInt8.toNat_ofNat']
  exact Nat.mod_eq_of_lt small

section Units

variable (c : Char) (rest : Bytes)

theorem readUnit_one (high : c.toNat < 0x80) :
    readUnit (UInt8.ofNat c.toNat) rest = ⟨.ok c, 1⟩ := by
  simp only [readUnit, toNat_byte c.toNat (by omega), high, if_true, Char.ofNat_toNat]

theorem readUnit_two (low : 0x80 ≤ c.toNat) (high : c.toNat < 0x800) :
    readUnit (UInt8.ofNat (0xC0 + c.toNat / 64)) (UInt8.ofNat (0x80 + c.toNat % 64) :: rest) =
      ⟨.ok c, 2⟩ := by
  have lead : ¬ 0xC0 + c.toNat / 64 < 0x80 ∧ ¬ 0xC0 + c.toNat / 64 < 0xC2 ∧
      0xC0 + c.toNat / 64 < 0xE0 := by omega
  have second : isContinuation (0x80 + c.toNat % 64) = true := by
    simp [isContinuation]
    omega
  have value : (0xC0 + c.toNat / 64 - 0xC0) * 64 + (0x80 + c.toNat % 64 - 0x80) = c.toNat := by
    omega
  simp only [readUnit, toNat_byte (0xC0 + c.toNat / 64) (by omega),
    toNat_byte (0x80 + c.toNat % 64) (by omega), lead, if_true, if_false, List.take_succ_cons,
    List.map_cons, readTwo, second, value, Char.ofNat_toNat]

theorem readUnit_three (low : 0x800 ≤ c.toNat) (high : c.toNat < 0x10000) :
    readUnit (UInt8.ofNat (0xE0 + c.toNat / 4096))
        (UInt8.ofNat (0x80 + c.toNat / 64 % 64) :: UInt8.ofNat (0x80 + c.toNat % 64) :: rest) =
      ⟨.ok c, 3⟩ := by
  have range := scalar c
  have lead : ¬ 0xE0 + c.toNat / 4096 < 0x80 ∧ ¬ 0xE0 + c.toNat / 4096 < 0xC2 ∧
      ¬ 0xE0 + c.toNat / 4096 < 0xE0 ∧ 0xE0 + c.toNat / 4096 < 0xF0 := by omega
  have second : isSecondOfThree (0xE0 + c.toNat / 4096) (0x80 + c.toNat / 64 % 64) = true := by
    simp [isSecondOfThree, isContinuation]
    omega
  have third : isContinuation (0x80 + c.toNat % 64) = true := by
    simp [isContinuation]
    omega
  have value : (0xE0 + c.toNat / 4096 - 0xE0) * 4096 + (0x80 + c.toNat / 64 % 64 - 0x80) * 64 +
      (0x80 + c.toNat % 64 - 0x80) = c.toNat := by
    omega
  simp only [readUnit, toNat_byte (0xE0 + c.toNat / 4096) (by omega),
    toNat_byte (0x80 + c.toNat / 64 % 64) (by omega), toNat_byte (0x80 + c.toNat % 64) (by omega),
    lead, if_true, if_false, List.take_succ_cons, List.map_cons, readThree, second, third, value,
    Char.ofNat_toNat]

theorem readUnit_four (low : 0x10000 ≤ c.toNat) :
    readUnit (UInt8.ofNat (0xF0 + c.toNat / 262144))
        (UInt8.ofNat (0x80 + c.toNat / 4096 % 64) :: UInt8.ofNat (0x80 + c.toNat / 64 % 64) ::
          UInt8.ofNat (0x80 + c.toNat % 64) :: rest) =
      ⟨.ok c, 4⟩ := by
  have range := scalar c
  have lead : ¬ 0xF0 + c.toNat / 262144 < 0x80 ∧ ¬ 0xF0 + c.toNat / 262144 < 0xC2 ∧
      ¬ 0xF0 + c.toNat / 262144 < 0xE0 ∧ ¬ 0xF0 + c.toNat / 262144 < 0xF0 ∧
      0xF0 + c.toNat / 262144 < 0xF5 := by omega
  have second : isSecondOfFour (0xF0 + c.toNat / 262144) (0x80 + c.toNat / 4096 % 64) = true := by
    simp [isSecondOfFour, isContinuation]
    omega
  have third : isContinuation (0x80 + c.toNat / 64 % 64) = true := by
    simp [isContinuation]
    omega
  have fourth : isContinuation (0x80 + c.toNat % 64) = true := by
    simp [isContinuation]
    omega
  have value : (0xF0 + c.toNat / 262144 - 0xF0) * 262144 +
      (0x80 + c.toNat / 4096 % 64 - 0x80) * 4096 + (0x80 + c.toNat / 64 % 64 - 0x80) * 64 +
      (0x80 + c.toNat % 64 - 0x80) = c.toNat := by
    omega
  simp only [readUnit, toNat_byte (0xF0 + c.toNat / 262144) (by omega),
    toNat_byte (0x80 + c.toNat / 4096 % 64) (by omega),
    toNat_byte (0x80 + c.toNat / 64 % 64) (by omega), toNat_byte (0x80 + c.toNat % 64) (by omega),
    lead, if_true, if_false, List.take_succ_cons, List.map_cons, readFour, second, third, fourth,
    value, Char.ofNat_toNat]

theorem readUnit_encoded :
    ∃ first others, encodeChar c = first :: others ∧
      readUnit first (others ++ rest) = ⟨.ok c, others.length + 1⟩ := by
  by_cases one : c.toNat < 0x80
  · simp only [encodeChar, one, if_true]
    exact ⟨_, _, rfl, readUnit_one c rest one⟩
  · by_cases two : c.toNat < 0x800
    · simp only [encodeChar, one, two, if_true, if_false]
      exact ⟨_, _, rfl, readUnit_two c rest (Nat.le_of_not_lt one) two⟩
    · by_cases three : c.toNat < 0x10000
      · simp only [encodeChar, one, two, three, if_true, if_false]
        exact ⟨_, _, rfl, readUnit_three c rest (Nat.le_of_not_lt two) three⟩
      · simp only [encodeChar, one, two, three, if_false]
        exact ⟨_, _, rfl, readUnit_four c rest (Nat.le_of_not_lt three)⟩

end Units

theorem lossyFrom_skip (read rest : Bytes) :
    lossyFrom read.length (read ++ rest) = lossyFrom 0 rest := by
  induction read with
  | nil => rfl
  | cons byte read ih => exact ih

theorem decodeLossy_encode (t : Text) : decodeLossy (encode t) = t := by
  induction t with
  | nil => rfl
  | cons c rest ih =>
      obtain ⟨first, others, bytes, unit⟩ := readUnit_encoded c (encode rest)
      have front : encode (c :: rest) = first :: (others ++ encode rest) := by
        simp only [encode, List.flatMap_cons, bytes, List.cons_append]
      rw [front, decodeLossy, lossyFrom, unit]
      simp only [Nat.add_sub_cancel, lossyFrom_skip]
      rw [← decodeLossy, ih]

theorem encode_append (first second : Text) :
    encode (first ++ second) = encode first ++ encode second := List.flatMap_append

end Utf8

theorem SyntaxNode.text_of_part (node : SyntaxNode) (before part after : Text)
    (starts : node.startByte = (Utf8.encode before).length)
    (ends : node.endByte = (Utf8.encode (before ++ part)).length) :
    node.text (Utf8.encode (before ++ part ++ after)) = part := by
  have bytes : Utf8.encode (before ++ part ++ after) =
      Utf8.encode before ++ (Utf8.encode part ++ Utf8.encode after) := by
    simp only [Utf8.encode_append, List.append_assoc]
  have width : node.endByte - node.startByte = (Utf8.encode part).length := by
    rw [starts, ends, Utf8.encode_append, List.length_append, Nat.add_sub_cancel_left]
  rw [text, width, starts, bytes, List.drop_left, List.take_left, Utf8.decodeLossy_encode]

end Restatement
