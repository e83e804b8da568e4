import Mathlib.Data.List.DropRight
import Telemetry.Json.Printer
import Telemetry.Json.Scan

/-!
# Printed numbers are numerals

A numeral is a text that takes the parts of a number to one where a number may end. The digits of an
integer and every layout of a binary fraction are numerals: they start with a digit other than zero
or with a single zero, and a point and an exponent mark have digits on either side.
-/

namespace Telemetry.Json

namespace NumberPart

/-- The part reached from `part` over the characters. -/
def run (part : NumberPart) (cs : List Char) : Option NumberPart := cs.foldlM next? part

@[simp] theorem run_nil (part : NumberPart) : part.run [] = some part := rfl

@[simp] theorem run_cons (part : NumberPart) (c : Char) (cs : List Char) :
    part.run (c :: cs) = (part.next? c).bind fun p => p.run cs := rfl

theorem run_append (part : NumberPart) (a b : List Char) :
    part.run (a ++ b) = (part.run a).bind fun p => p.run b := by
  simp [run, List.foldlM_append]

/-- In these parts any digit is followed by the same part again. -/
theorem run_digits {part : NumberPart} (h : ∀ c, c.isDigit = true → part.next? c = some part)
    {ds : List Char} (hd : ∀ c ∈ ds, c.isDigit = true) : part.run ds = some part := by
  induction ds with
  | nil => rfl
  | cons d rest ih =>
    rw [run_cons, h d (hd d (by simp)), Option.bind_some]
    exact ih fun c hc => hd c (by simp [hc])

theorem whole_run {ds : List Char} (hd : ∀ c ∈ ds, c.isDigit = true) : whole.run ds = some whole :=
  run_digits (fun c h => by simp [next?, h]) hd

theorem fraction_run {ds : List Char} (hd : ∀ c ∈ ds, c.isDigit = true) :
    fraction.run ds = some fraction :=
  run_digits (fun c h => by simp [next?, h]) hd

theorem exponent_run {ds : List Char} (hd : ∀ c ∈ ds, c.isDigit = true) :
    exponent.run ds = some exponent :=
  run_digits (fun c h => by simp [next?, h]) hd

/-- A number that does not start with a zero. -/
theorem minus_run {d : Char} {ds : List Char} (h0 : d ≠ '0')
    (hd : ∀ c ∈ d :: ds, c.isDigit = true) : minus.run (d :: ds) = some whole := by
  have h1 : minus.next? d = some whole := by simp [next?, h0, hd d (by simp)]
  rw [run_cons, h1, Option.bind_some]
  exact whole_run fun c hc => hd c (by simp [hc])

/-- The digits after a point. -/
theorem point_run {ds : List Char} (hne : ds ≠ []) (hd : ∀ c ∈ ds, c.isDigit = true) :
    point.run ds = some fraction := by
  obtain ⟨d, ds, rfl⟩ := List.exists_cons_of_ne_nil hne
  have h1 : point.next? d = some fraction := by simp [next?, hd d (by simp)]
  rw [run_cons, h1, Option.bind_some]
  exact fraction_run fun c hc => hd c (by simp [hc])

/-- The digits of an exponent, after its sign. -/
theorem sign_run {ds : List Char} (hne : ds ≠ []) (hd : ∀ c ∈ ds, c.isDigit = true) :
    sign.run ds = some exponent := by
  obtain ⟨d, ds, rfl⟩ := List.exists_cons_of_ne_nil hne
  have h1 : sign.next? d = some exponent := by simp [next?, hd d (by simp)]
  rw [run_cons, h1, Option.bind_some]
  exact exponent_run fun c hc => hd c (by simp [hc])

theorem mem_digits {c : Char} (h : c.isDigit = true) :
    c ∈ ['0', '1', '2', '3', '4', '5', '6', '7', '8', '9'] := by
  have bounds : 48 ≤ c.toNat ∧ c.toNat ≤ 57 := by
    simpa [Char.isDigit, UInt32.le_iff_toNat_le] using h
  have all : ∀ k ≤ 57, 48 ≤ k →
      Char.ofNat k ∈ ['0', '1', '2', '3', '4', '5', '6', '7', '8', '9'] := by decide
  exact Char.ofNat_toNat c ▸ all c.toNat bounds.2 bounds.1

/-- The characters that a number without sign may start with. -/
theorem mem_digits_of_next? {c : Char} {part : NumberPart} (h : minus.next? c = some part) :
    c ∈ ['0', '1', '2', '3', '4', '5', '6', '7', '8', '9'] := by
  apply mem_digits
  by_contra hc
  by_cases h0 : c = '0'
  · exact hc (h0 ▸ by decide)
  · simp [next?, h0, hc] at h

end NumberPart

/-! ## Numerals -/

open NumberPart

/-- A number without its sign. It begins in the part that a sign leaves behind. -/
def IsUnsigned (cs : List Char) : Prop := ∃ part, minus.run cs = some part ∧ part.isComplete = true

def IsNumeral (cs : List Char) : Prop := IsUnsigned cs ∨ ∃ ds, cs = '-' :: ds ∧ IsUnsigned ds

theorem isDigit_of_mem_toDigits {n : Nat} {c : Char} (h : c ∈ Nat.toDigits 10 n) :
    c.isDigit = true := Nat.isDigit_of_mem_toDigits (by decide) (by decide) h

/-- The digits of a number other than zero do not start with a zero. -/
theorem exists_toDigits_eq_cons {n : Nat} (h : n ≠ 0) :
    ∃ d ds, Nat.toDigits 10 n = d :: ds ∧ d ≠ '0' := by
  induction n using Nat.strongRecOn with
  | ind n ih =>
    by_cases hn : n < 10
    · refine ⟨n.digitChar, [], Nat.toDigits_of_lt_base hn, ?_⟩
      have : ∀ m < 10, m ≠ 0 → Nat.digitChar m ≠ '0' := by decide
      exact this n hn h
    · obtain ⟨d, ds, hds, hd⟩ := ih (n / 10) (by omega) (by omega)
      refine ⟨d, ds ++ [(n % 10).digitChar], ?_, hd⟩
      rw [Nat.toDigits_of_base_le (by decide) (by omega), hds, List.cons_append]

theorem isUnsigned_toDigits (n : Nat) : IsUnsigned (Nat.toDigits 10 n) := by
  by_cases h : n = 0
  · subst h
    exact ⟨zero, by rw [Nat.toDigits_zero]; rfl, rfl⟩
  · obtain ⟨d, ds, hds, hd⟩ := exists_toDigits_eq_cons h
    refine ⟨whole, ?_, rfl⟩
    rw [hds]
    exact minus_run hd fun c hc => isDigit_of_mem_toDigits (n := n) (hds ▸ hc)

theorem isNumeral_int (n : Int) : IsNumeral (toString n).toList := by
  rw [Int.toString_eq_repr, Int.repr_eq_if]
  split
  · rw [Nat.toList_repr]
    exact .inl (isUnsigned_toDigits _)
  · refine .inr ⟨Nat.toDigits 10 (-n).toNat, ?_, isUnsigned_toDigits _⟩
    simp [Nat.toList_repr]

/-! ## Layouts of binary fractions -/

/-- Digits of which the first is not a zero. -/
structure Significant (ds : List Char) : Prop where
  digits : ∀ c ∈ ds, c.isDigit = true
  first : ∃ d rest, ds = d :: rest ∧ d ≠ '0'

theorem Significant.ne_nil {ds : List Char} (h : Significant ds) : ds ≠ [] := by
  obtain ⟨d, rest, rfl, -⟩ := h.first
  exact List.cons_ne_nil d rest

theorem Significant.run {ds : List Char} (h : Significant ds) : minus.run ds = some whole := by
  obtain ⟨d, rest, rfl, hd⟩ := h.first
  exact minus_run hd h.digits

theorem Significant.append {ds es : List Char} (h : Significant ds)
    (he : ∀ c ∈ es, c.isDigit = true) : Significant (ds ++ es) := by
  obtain ⟨d, rest, rfl, hd⟩ := h.first
  refine ⟨fun c hc => ?_, d, rest ++ es, rfl, hd⟩
  obtain hc | hc := List.mem_append.1 hc
  · exact h.digits c hc
  · exact he c hc

theorem Significant.take {ds : List Char} (h : Significant ds) {n : Nat} (hn : n ≠ 0) :
    Significant (ds.take n) := by
  obtain ⟨d, rest, rfl, hd⟩ := h.first
  obtain ⟨n, rfl⟩ := Nat.exists_eq_succ_of_ne_zero hn
  exact ⟨fun c hc => h.digits c (List.mem_of_mem_take hc), d, rest.take n, rfl, hd⟩

theorem isDigit_of_mem_replicate {n : Nat} {c : Char} (h : c ∈ List.replicate n '0') :
    c.isDigit = true := by
  rw [List.eq_of_mem_replicate h]
  decide

theorem significant_toDigits {n : Nat} (h : n ≠ 0) : Significant (Nat.toDigits 10 n) :=
  ⟨fun _ hc => isDigit_of_mem_toDigits hc, exists_toDigits_eq_cons h⟩

theorem significant_dropZeros {ds : List Char} (h : Significant ds) (power : Int) :
    Significant (Binary64.dropZeros ds power).1 := by
  obtain ⟨d, rest, rfl, hd⟩ := h.first
  have kept : (Binary64.dropZeros (d :: rest) power).1 = (d :: rest).rdropWhile (· == '0') := rfl
  rw [kept]
  obtain ⟨tail, htail⟩ := List.rdropWhile_prefix (· == '0') (l := d :: rest)
  have hne : (d :: rest).rdropWhile (· == '0') ≠ [] := by
    rw [Ne, List.rdropWhile_eq_nil_iff]
    exact fun all => hd (by simpa using all d (by simp))
  obtain ⟨e, es, he⟩ := List.exists_cons_of_ne_nil hne
  rw [he, List.cons_append, List.cons.injEq] at htail
  refine ⟨fun c hc => h.digits c ?_, e, es, he, htail.1 ▸ hd⟩
  exact (List.rdropWhile_prefix _ _).subset hc

/-- A whole number, a point and digits. -/
theorem isUnsigned_point {ds fs : List Char} (h : minus.run ds = some whole) (hne : fs ≠ [])
    (hf : ∀ c ∈ fs, c.isDigit = true) : IsUnsigned (ds ++ '.' :: fs) := by
  refine ⟨fraction, ?_, rfl⟩
  have hp : whole.run ('.' :: fs) = some fraction := by
    rw [run_cons]
    exact point_run hne hf
  rw [run_append, h, Option.bind_some, hp]

theorem isUnsigned_positional {ds : List Char} (h : Significant ds) (power : Int) :
    IsUnsigned (Binary64.positional ds power) := by
  unfold Binary64.positional
  split
  · have zeros := h.append fun c hc => isDigit_of_mem_replicate (n := power.toNat) hc
    exact isUnsigned_point zeros.run (by simp) (by simp)
  · dsimp only
    split
    · next places =>
      refine isUnsigned_point (h.take (by omega)).run ?_ ?_
      · rw [Ne, List.drop_eq_nil_iff]
        omega
      · exact fun c hc => h.digits c (List.mem_of_mem_drop hc)
    · refine ⟨fraction, ?_, rfl⟩
      have digits : ∀ c ∈ List.replicate ((-power).toNat - ds.length) '0' ++ ds,
          c.isDigit = true := by
        intro c hc
        obtain hc | hc := List.mem_append.1 hc
        · exact isDigit_of_mem_replicate hc
        · exact h.digits c hc
      exact point_run (by simp [h.ne_nil]) digits

theorem isUnsigned_scientific {ds : List Char} (h : Significant ds) (e : Int) :
    IsUnsigned (Binary64.scientific ds e) := by
  have tail : ∀ part : NumberPart, part.next? 'e' = some mark →
      part.run ('e' :: (if e < 0 then '-' else '+') :: Nat.toDigits 10 e.natAbs) =
        some exponent := by
    intro part he
    have hs : mark.next? (if e < 0 then '-' else '+') = some sign := by
      split <;> rfl
    rw [run_cons, he, Option.bind_some, run_cons, hs, Option.bind_some]
    exact sign_run Nat.toDigits_ne_nil fun c hc => isDigit_of_mem_toDigits hc
  obtain ⟨d, rest, rfl, hd⟩ := h.first
  refine ⟨exponent, ?_, rfl⟩
  cases rest with
  | nil =>
    simp only [Binary64.scientific]
    rw [run_append, h.run, Option.bind_some]
    exact tail whole rfl
  | cons f fs =>
    simp only [Binary64.scientific]
    have hdf : minus.run [d] = some whole :=
      minus_run hd fun c hc => h.digits c (by simp_all)
    have hp : point.run (f :: fs) = some fraction :=
      point_run (by simp) fun c hc => h.digits c (List.mem_cons_of_mem d hc)
    have front : minus.run (d :: '.' :: f :: fs) = some fraction := by
      rw [← List.singleton_append, run_append, hdf, Option.bind_some]
      exact hp
    rw [run_append, front, Option.bind_some]
    exact tail fraction rfl

/-! ## Numbers -/

theorem distance?_ne_zero {n : Binary64.Neighbourhood} {unit scale d a b : Nat}
    (h : Binary64.distance? n unit scale d = some (a, b)) : b ≠ 0 := by
  rw [Binary64.distance?, Option.ite_none_right_eq_some] at h
  obtain ⟨⟨hd, -⟩, ⟨⟩⟩ := h
  exact hd

/-- A decimal that rounds to a number other than zero is not zero. -/
theorem onGrid?_ne_zero {n : Binary64.Neighbourhood} {power : Int} {d : Nat}
    (h : Binary64.onGrid? n power = some d) : d ≠ 0 := by
  unfold Binary64.onGrid? at h
  dsimp only at h
  split at h
  · cases h
  · next ha _ => cases h; exact distance?_ne_zero ha
  · next hb => cases h; exact distance?_ne_zero hb
  · next ha hb =>
    have := distance?_ne_zero ha
    have := distance?_ne_zero hb
    split at h
    · cases h; assumption
    · split at h <;> cases h <;> omega

theorem shortest_ne_zero {x : Binary64} (h : x.significand ≠ 0) : x.shortest.1 ≠ 0 := by
  unfold Binary64.shortest
  dsimp only
  generalize ho : List.findSome? _ _ = o
  cases o with
  | none => exact h
  | some r =>
    obtain ⟨i, -, hi⟩ := List.exists_of_findSome?_eq_some ho
    obtain ⟨d, hd, rfl⟩ := Option.map_eq_some_iff.1 hi
    exact onGrid?_ne_zero hd

theorem isNumeral_float (layout : Binary64.Layout) (x : Binary64) : IsNumeral (x.chars layout) := by
  have body : ∀ cs, IsUnsigned cs → IsNumeral (if x.negative then '-' :: cs else cs) := by
    intro cs h
    split
    · exact .inr ⟨cs, rfl, h⟩
    · exact .inl h
  unfold Binary64.chars
  apply body
  split
  · exact ⟨fraction, rfl, rfl⟩
  · next h =>
    have digits := significant_dropZeros (significant_toDigits (shortest_ne_zero h)) x.shortest.2
    dsimp only
    split
    · exact isUnsigned_positional digits _
    · exact isUnsigned_scientific digits _

theorem Number.isNumeral (n : Number) : IsNumeral n.chars := by
  cases n with
  | int n => exact isNumeral_int n
  | float x => exact isNumeral_float floatLayout x

end Telemetry.Json
