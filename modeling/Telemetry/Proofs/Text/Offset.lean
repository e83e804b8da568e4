import Telemetry.Proofs.Text.Search
import Telemetry.Proofs.Text.Utf8

/-!
# Byte offsets

`offset?` is the first byte offset at which the bytes of a pattern stand among those of a text. An ASCII pattern never
begins within a character, so this is the offset of the place that `find?` yields. `slice?` cuts a text at byte offsets,
if it can be cut there.
-/

namespace Telemetry.Text

variable {pattern text : List Char}

/-- The bytes of some characters. -/
def bytes (cs : List Char) : List UInt8 := utf8 (String.ofList cs)

def IsAscii (cs : List Char) : Prop := ∀ c ∈ cs, c.toNat < 128

instance (cs : List Char) : Decidable (IsAscii cs) := List.decidableBAll (fun c : Char => c.toNat < 128) cs

/-- The byte offset of the first occurrence of the pattern. -/
def offset? (pattern text : List Char) : Option Nat := (bytes text).tails.findIdx? (bytes pattern).isPrefixOf

/-- The part of the text from one byte offset up to another. There is none unless the offsets are in order, and both lie
within the text and between its characters. -/
def slice? (start stop : Nat) (text : List Char) : Option (List Char) :=
  if start ≤ stop ∧ (String.Pos.Raw.mk start).IsValid (String.ofList text) ∧
      (String.Pos.Raw.mk stop).IsValid (String.ofList text) then
    (ofUtf8? (((bytes text).take stop).drop start)).map String.toList
  else none

@[simp] theorem bytes_nil : bytes [] = [] := by rw [bytes, utf8_ofList, List.flatMap_nil]

theorem bytes_cons (c : Char) (cs : List Char) : bytes (c :: cs) = String.utf8EncodeChar c ++ bytes cs := by
  rw [bytes, bytes, utf8_ofList, utf8_ofList, List.flatMap_cons]

theorem bytes_append (x y : List Char) : bytes (x ++ y) = bytes x ++ bytes y := utf8_append x y

/-! ## The offset of a pattern -/

theorem bytes_prefix_iff (ascii : IsAscii pattern) : bytes pattern <+: bytes text ↔ pattern <+: text := by
  constructor
  · intro front
    induction pattern generalizing text with
    | nil => exact List.nil_prefix
    | cons c pattern ih =>
      obtain ⟨narrow, tail⟩ := List.forall_mem_cons.1 ascii
      rw [bytes_cons, encodeChar_ascii narrow, List.singleton_append] at front
      have head : (bytes text).head? = some (UInt8.ofNat c.toNat) := by
        obtain ⟨rest, split⟩ := front
        rw [← split]
        rfl
      obtain ⟨cs, shape⟩ := exists_cons_of_utf8 narrow head
      rw [String.toList_ofList] at shape
      rw [shape, bytes_cons, encodeChar_ascii narrow, List.singleton_append, List.cons_prefix_cons] at front
      exact shape ▸ List.cons_prefix_cons.2 ⟨rfl, ih tail front.2⟩
  · rintro ⟨rest, rfl⟩
    exact ⟨bytes rest, (bytes_append pattern rest).symm⟩

theorem findIdx?_tails_at_start {p : List UInt8 → Bool} {all : List UInt8} (h : p all = true) :
    all.tails.findIdx? p = some 0 := by
  cases all with
  | nil => simp [h]
  | cons b all => rw [List.tails_cons, List.findIdx?_cons, if_pos h]

/-- Places at which the pattern does not stand are passed over. -/
theorem findIdx?_tails_append {p : List UInt8 → Bool} {front : List UInt8} (back : List UInt8)
    (absent : ∀ x y, front = x ++ y → y ≠ [] → p (y ++ back) = false) :
    (front ++ back).tails.findIdx? p = (back.tails.findIdx? p).map (· + front.length) := by
  induction front with
  | nil => simp
  | cons b front ih =>
    have here : p (b :: (front ++ back)) = false := absent [] (b :: front) rfl (List.cons_ne_nil b front)
    rw [List.cons_append, List.tails_cons, List.findIdx?_cons, here,
      ih fun x y split => absent (b :: x) y (by rw [split]; rfl)]
    cases back.tails.findIdx? p <;> rfl

/-- Where the bytes of an ASCII pattern stand, a character begins. -/
theorem not_prefix_within (ascii : IsAscii pattern) (given : pattern ≠ []) {c : Char} (h : ¬ pattern <+: c :: text)
    {x y : List UInt8} (split : String.utf8EncodeChar c = x ++ y) (rest : y ≠ []) :
    ¬ bytes pattern <+: y ++ bytes text := by
  obtain ⟨b, y, rfl⟩ := List.exists_cons_of_ne_nil rest
  by_cases narrow : c.toNat < 128
  · -- The character is one byte, so only its beginning is left.
    rw [encodeChar_ascii narrow] at split
    obtain ⟨rfl, rfl, rfl⟩ : x = [] ∧ b = UInt8.ofNat c.toNat ∧ y = [] := by
      cases x <;> simp_all
    rwa [← encodeChar_ascii narrow, ← bytes_cons, bytes_prefix_iff ascii]
  · intro front
    obtain ⟨d, pattern, rfl⟩ := List.exists_cons_of_ne_nil given
    have wide : 128 ≤ b.toNat := encodeChar_wide (Nat.le_of_not_lt narrow) b (by simp [split])
    have first : d.toNat < 128 := ascii d List.mem_cons_self
    rw [bytes_cons, encodeChar_ascii first, List.singleton_append, List.cons_append, List.cons_prefix_cons] at front
    rw [← front.1, UInt8.toNat_ofNat'] at wide
    omega

theorem offset?_eq (ascii : IsAscii pattern) (given : pattern ≠ []) (text : List Char) :
    offset? pattern text = (find? pattern text).map fun i => (bytes (text.take i)).length := by
  unfold offset?
  induction text with
  | nil =>
    have absent : ¬ bytes pattern <+: bytes [] := by
      rw [bytes_prefix_iff ascii]
      simpa using given
    have nowhere : find? pattern [] = none := find?_eq_none_iff.2 (by simpa using given)
    have miss : (bytes pattern).isPrefixOf (bytes []) = false :=
      Bool.eq_false_iff.2 (mt List.isPrefixOf_iff_prefix.1 absent)
    rw [bytes_nil] at miss ⊢
    simp [nowhere, miss]
  | cons c text ih =>
    by_cases front : pattern <+: c :: text
    · rw [findIdx?_tails_at_start (List.isPrefixOf_iff_prefix.2 ((bytes_prefix_iff ascii).2 front)), find?,
        if_pos (List.isPrefixOf_iff_prefix.2 front)]
      rfl
    · rw [bytes_cons, findIdx?_tails_append, ih, find?, if_neg (mt List.isPrefixOf_iff_prefix.1 front)]
      · cases find? pattern text with
        | none => rfl
        | some i => simp [bytes_cons, Nat.add_comm]
      · intro x y split rest
        exact Bool.eq_false_iff.2 (mt List.isPrefixOf_iff_prefix.1 (not_prefix_within ascii given front split rest))

/-! ## Slices -/

theorem isValid_of_append (x y : List Char) :
    (String.Pos.Raw.mk (bytes x).length).IsValid (String.ofList (x ++ y)) :=
  String.Pos.Raw.isValid_ofList.2 ⟨x.length, by rw [List.take_left, bytes, length_utf8]⟩

theorem slice?_append (x y z : List Char) :
    slice? (bytes x).length (bytes (x ++ y)).length (x ++ y ++ z) = some y := by
  have ordered : (bytes x).length ≤ (bytes (x ++ y)).length := by simp [bytes_append]
  have start : (String.Pos.Raw.mk (bytes x).length).IsValid (String.ofList (x ++ y ++ z)) := by
    rw [List.append_assoc]
    exact isValid_of_append x (y ++ z)
  have part : ((bytes (x ++ y ++ z)).take (bytes (x ++ y)).length).drop (bytes x).length = utf8 (String.ofList y) := by
    rw [bytes_append (x ++ y) z, List.take_left, bytes_append, List.drop_left]
    rfl
  rw [slice?, if_pos ⟨ordered, start, isValid_of_append (x ++ y) z⟩, part, ofUtf8?_utf8, Option.map_some,
    String.toList_ofList]

end Telemetry.Text
