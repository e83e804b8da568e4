import Telemetry.Text.Utf8

/-!
# The bytes of characters

An ASCII character is one byte, with the same number. Every byte of any other character is at least
128.
-/

namespace Telemetry.Text

theorem utf8_ofList (cs : List Char) :
    utf8 (String.ofList cs) = cs.flatMap String.utf8EncodeChar := by
  rw [utf8, String.toByteArray_ofList, List.utf8Encode, List.toList_data_toByteArray]

theorem encodeChar_ascii {c : Char} (h : c.toNat < 128) :
    String.utf8EncodeChar c = [UInt8.ofNat c.toNat] := by
  have h' : c.toNat ≤ 0x7f := Nat.le_of_lt_succ h
  simp [String.utf8EncodeChar, h']

theorem encodeChar_wide {c : Char} (h : 128 ≤ c.toNat) :
    ∀ b ∈ String.utf8EncodeChar c, 128 ≤ b.toNat := by
  have h' : ¬ c.val.toNat ≤ 0x7f := by
    change ¬ c.toNat ≤ 0x7f
    omega
  intro b hb
  unfold String.utf8EncodeChar at hb
  simp only [if_neg h'] at hb
  split at hb
  · simp only [List.mem_cons, List.not_mem_nil, or_false] at hb
    obtain rfl | rfl := hb <;> simp <;> omega
  · split at hb
    · simp only [List.mem_cons, List.not_mem_nil, or_false] at hb
      obtain rfl | rfl | rfl := hb <;> simp <;> omega
    · simp only [List.mem_cons, List.not_mem_nil, or_false] at hb
      obtain rfl | rfl | rfl | rfl := hb <;> simp <;> omega

theorem length_utf8_ascii {cs : List Char} (h : ∀ c ∈ cs, c.toNat < 128) :
    (utf8 (String.ofList cs)).length = cs.length := by
  rw [utf8_ofList]
  induction cs with
  | nil => rfl
  | cons c cs ih =>
    rw [List.flatMap_cons, List.length_append, ih fun d hd => h d (List.mem_cons_of_mem c hd),
      encodeChar_ascii (h c List.mem_cons_self), List.length_cons, Nat.add_comm]
    rfl

theorem utf8_append (x y : List Char) :
    utf8 (String.ofList (x ++ y)) = utf8 (String.ofList x) ++ utf8 (String.ofList y) := by
  rw [utf8_ofList, utf8_ofList, utf8_ofList, List.flatMap_append]

/-- A text whose first byte is ASCII begins with that character. -/
theorem exists_cons_of_utf8 {s : String} {c : Char} (hc : c.toNat < 128)
    (h : (utf8 s).head? = some (UInt8.ofNat c.toNat)) : ∃ cs, s.toList = c :: cs := by
  rw [← String.ofList_toList (s := s), utf8_ofList] at h
  cases shape : s.toList with
  | nil =>
    rw [shape] at h
    cases h
  | cons d cs =>
    rw [shape, List.flatMap_cons] at h
    by_cases hd : d.toNat < 128
    · rw [encodeChar_ascii hd] at h
      have same : UInt8.ofNat d.toNat = UInt8.ofNat c.toNat := Option.some_inj.1 h
      have number : d.toNat = c.toNat := by
        have := congrArg UInt8.toNat same
        simp only [UInt8.toNat_ofNat'] at this
        omega
      exact ⟨cs, by rw [Char.toNat_inj.1 number]⟩
    · have wide := encodeChar_wide (Nat.le_of_not_lt hd)
      have first : UInt8.ofNat c.toNat ∈ String.utf8EncodeChar d := by
        cases bytes : String.utf8EncodeChar d with
        | nil => simp [String.utf8EncodeChar_ne_nil] at bytes
        | cons b rest =>
          rw [bytes] at h
          cases Option.some_inj.1 h
          exact List.mem_cons_self
      have := wide _ first
      simp only [UInt8.toNat_ofNat'] at this
      omega

end Telemetry.Text
