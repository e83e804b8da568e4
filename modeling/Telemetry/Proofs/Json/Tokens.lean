import Telemetry.Json.Reader
import Telemetry.Proofs.Json.Numeral

/-!
# Printed tokens are read back

What is written between quotes decodes to the characters it was written from, and the digits of an integer
are read as that integer if it is one of those that are kept exactly.
-/

namespace Telemetry.Json

/-! ## Strings -/

namespace Quoted

theorem hex4?_hexDigit : ∀ k < 32, hex4? '0' '0' (hexDigit (k / 16)) (hexDigit (k % 16)) = some k := by
  decide

theorem decode_unicodeEscape {c : Char} (h : c.toNat < 0x20) (rest : List Char) :
    decode (unicodeEscape c ++ rest) = (decode rest).map (c :: ·) := by
  have low : isLowSurrogate c.toNat = false := by
    simp only [isLowSurrogate, Bool.and_eq_false_iff, decide_eq_false_iff_not]
    omega
  have high : isHighSurrogate c.toNat = false := by
    simp only [isHighSurrogate, Bool.and_eq_false_iff, decide_eq_false_iff_not]
    omega
  simp only [unicodeEscape, List.cons_append, List.nil_append]
  rw [decode, hex4?_hexDigit _ h]
  simp [low, high, Char.ofNat_toNat]

theorem decode_encodeChar (c : Char) (rest : List Char) :
    decode (encodeChar c ++ rest) = (decode rest).map (c :: ·) := by
  unfold encodeChar
  split
  case h_8 hq hb _ _ _ _ _ =>
    split
    · next h => exact decode_unicodeEscape h rest
    · next h =>
      have plain : ¬(c = '"' ∨ c = '\\' ∨ c.toNat < 0x20) := by
        simp only [not_or]
        exact ⟨hq, hb, h⟩
      rw [List.singleton_append, decode, if_neg plain]
      · intro a b d e rest' hc _
        exact hb hc
      · intro _ _ hc
        exact absurd hc hb
  all_goals rfl

/-- What was encoded is decoded. -/
theorem decode_encode (cs : List Char) : decode (encode cs) = some cs := by
  induction cs with
  | nil => rfl
  | cons c cs ih =>
    have first := decode_encodeChar c (encode cs)
    rw [ih] at first
    exact first

end Quoted

/-! ## Integers -/

theorem digitsValue_toDigits (n : Nat) : Text.digitsValue (Nat.toDigits 10 n) = n := by
  have value := @Nat.ofDigitChars_ten_toDigits n
  rw [Nat.ofDigitChars_eq_foldl] at value
  rw [Text.digitsValue, Text.valueIn_eq_foldl, List.foldl_map]
  simpa [Text.digitValue, Nat.add_comm] using value

theorem takeWhile_toDigits (n : Nat) :
    (Nat.toDigits 10 n).takeWhile Char.isDigit = Nat.toDigits 10 n :=
  List.takeWhile_eq_self_iff.2 fun _ hc => isDigit_of_mem_toDigits hc

theorem dropWhile_toDigits (n : Nat) : (Nat.toDigits 10 n).dropWhile Char.isDigit = [] :=
  List.dropWhile_eq_nil_iff.2 fun _ hc => isDigit_of_mem_toDigits hc

theorem Number.ofUnsigned?_nat {n : Nat} (h : n < 0x10000000000000000) :
    Number.ofUnsigned? false (Nat.toDigits 10 n) = some (.int n) := by
  simp only [Number.ofUnsigned?, takeWhile_toDigits, dropWhile_toDigits, digitsValue_toDigits]
  rw [if_pos ⟨trivial, rfl, h⟩]

theorem Number.ofUnsigned?_neg {n : Nat} (h0 : 0 < n) (h : n ≤ 0x8000000000000000) :
    Number.ofUnsigned? true (Nat.toDigits 10 n) = some (.int (-n)) := by
  simp only [Number.ofUnsigned?, takeWhile_toDigits, dropWhile_toDigits, digitsValue_toDigits]
  rw [if_neg (by simp), if_pos ⟨trivial, trivial, h0, h⟩]

/-- The digits of an integer are read as this integer. -/
theorem Number.ofChars?_int {i : Int} (h : Number.IsExact i) :
    Number.ofChars? (Number.int i).chars = some (.int i) := by
  obtain ⟨least, greatest⟩ := h
  rw [Number.chars, Int.toString_eq_repr, Int.repr_eq_if]
  split
  · next hi =>
    obtain ⟨n, rfl⟩ := Int.eq_ofNat_of_zero_le hi
    have unsigned : ∀ cs, Nat.toDigits 10 n ≠ '-' :: cs := by
      intro cs hcs
      exact absurd (isDigit_of_mem_toDigits (n := n) (hcs ▸ List.mem_cons_self)) (by decide)
    rw [Nat.toList_repr, Int.toNat_natCast, Number.ofChars?]
    · exact Number.ofUnsigned?_nat (by omega)
    · exact fun cs hcs => unsigned cs hcs
  · next hi =>
    obtain ⟨n, hn⟩ := Int.eq_ofNat_of_zero_le (a := -i) (by omega)
    have chars : ("-" ++ Nat.repr (-i).toNat).toList = '-' :: Nat.toDigits 10 n := by
      rw [hn, Int.toNat_natCast]
      simp [Nat.toList_repr]
    rw [chars, Number.ofChars?, Number.ofUnsigned?_neg (by omega) (by omega)]
    rw [show (-(n : Int)) = i by omega]

end Telemetry.Json
