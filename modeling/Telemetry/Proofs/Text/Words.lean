import Mathlib.Data.List.DropRight
import Mathlib.Data.List.Infix
import Mathlib.Data.List.TakeWhile
import Telemetry.Proofs.Text.Search
import Telemetry.Text.Blank

/-!
# Words between blanks

`IsSpread ws text` says that the text consists of the words `ws`, in this order, with blanks between them and perhaps
around them. These are the words that the text is cut into, and what has no blank in it lies within one of them.
-/

namespace Telemetry.Text

structure IsWord (word : List Char) : Prop where
  given : word ≠ []
  solid : ∀ c ∈ word, isBlank c = false

instance (word : List Char) : Decidable (IsWord word) :=
  let solid : Decidable (∀ c ∈ word, isBlank c = false) := List.decidableBAll _ word
  @decidable_of_iff _ (word ≠ [] ∧ _) ⟨fun h => ⟨h.1, h.2⟩, fun h => ⟨h.given, h.solid⟩⟩
    (@instDecidableAnd _ _ inferInstance solid)

inductive IsSpread : List (List Char) → List Char → Prop
  | nil : IsSpread [] []
  | blank {ws : List (List Char)} {c : Char} {text : List Char} (blank : isBlank c = true) (rest : IsSpread ws text) :
    IsSpread ws (c :: text)
  | word {w : List Char} {ws : List (List Char)} {text : List Char} (isWord : IsWord w)
    (apart : ∀ c ∈ text.head?, isBlank c = true) (rest : IsSpread ws text) : IsSpread (w :: ws) (w ++ text)

variable {w text gap : List Char} {ws : List (List Char)} {c : Char}

theorem IsWord.append (h : IsWord w) (solid : ∀ c ∈ text, isBlank c = false) : IsWord (w ++ text) where
  given := List.append_ne_nil_of_left_ne_nil h.given text
  solid c hc := by
    obtain front | back := List.mem_append.1 hc
    · exact h.solid c front
    · exact solid c back

/-- A blank behind each word. -/
def spaced (ws : List (List Char)) : List Char := ws.flatMap (· ++ [' '])

theorem isSpread_spaced (h : ∀ w ∈ ws, IsWord w) : IsSpread ws (spaced ws) := by
  induction ws with
  | nil => exact .nil
  | cons w ws ih =>
    obtain ⟨head, tail⟩ := List.forall_mem_cons.1 h
    have shape : spaced (w :: ws) = w ++ ' ' :: spaced ws := by simp [spaced]
    rw [shape]
    refine .word head ?_ (.blank rfl (ih tail))
    rintro _ ⟨⟩
    rfl

/-! ## Cutting at blanks -/

@[simp] theorem words_cons_blank (h : isBlank c = true) : words (c :: text) = words text := by
  simp [words, pieces, h]

/-- The first piece grows by the characters that are not blank. -/
theorem pieces_append (solid : ∀ c ∈ w, isBlank c = false) {first : List Char} {others : List (List Char)}
    (h : pieces text = first :: others) : pieces (w ++ text) = (w ++ first) :: others := by
  induction w with
  | nil => exact h
  | cons c w ih =>
    obtain ⟨head, tail⟩ := List.forall_mem_cons.1 solid
    simp [pieces, head, ih tail]

theorem words_append (isWord : IsWord w) (apart : ∀ c ∈ text.head?, isBlank c = true) :
    words (w ++ text) = w :: words text := by
  have cut : ∃ others, pieces text = [] :: others := by
    cases text with
    | nil => exact ⟨[], rfl⟩
    | cons c text => exact ⟨pieces text, by simp [pieces, apart c rfl]⟩
  obtain ⟨others, cut⟩ := cut
  simp [words, pieces_append isWord.solid cut, cut, isWord.given]

theorem words_of_isSpread (h : IsSpread ws text) : words text = ws := by
  induction h with
  | nil => rfl
  | blank blank _ ih => rw [words_cons_blank blank, ih]
  | word isWord apart _ ih => rw [words_append isWord apart, ih]

theorem isSpread_words (text : List Char) : IsSpread (words text) text := by
  induction shape : text.length using Nat.strongRecOn generalizing text with
  | ind n ih =>
    cases text with
    | nil => exact .nil
    | cons c text =>
      by_cases blank : isBlank c = true
      · rw [words_cons_blank blank]
        exact .blank blank (ih text.length (by simp at shape; omega) text rfl)
      · -- The first word is as long as it can be.
        let w := (c :: text).takeWhile fun d => !isBlank d
        let rest := (c :: text).dropWhile fun d => !isBlank d
        have split : w ++ rest = c :: text := List.takeWhile_append_dropWhile
        have isWord : IsWord w := ⟨by simp [w, blank], fun d hd => by simpa using List.mem_takeWhile_imp hd⟩
        have apart : ∀ d ∈ rest.head?, isBlank d = true := fun d hd => by
          have := List.head?_dropWhile_not (fun d => !isBlank d) (c :: text)
          rw [show ((c :: text).dropWhile fun d => !isBlank d).head? = some d from hd] at this
          simpa using this
        have shorter : rest.length < n := by
          have := congrArg List.length split
          have := List.length_pos_iff.2 isWord.given
          simp only [List.length_append] at *
          omega
        rw [← split, words_append isWord apart]
        exact .word isWord apart (ih _ shorter rest rfl)

theorem words_eq_iff : words text = ws ↔ IsSpread ws text :=
  ⟨fun h => h ▸ isSpread_words text, words_of_isSpread⟩

/-! ## Blanks at the end -/

theorem isSpread_blanks (blank : ∀ c ∈ gap, isBlank c = true) : IsSpread [] gap := by
  induction gap with
  | nil => exact .nil
  | cons c gap ih =>
    obtain ⟨head, tail⟩ := List.forall_mem_cons.1 blank
    exact .blank head (ih tail)

theorem IsSpread.append_blanks (h : IsSpread ws text) (blank : ∀ c ∈ gap, isBlank c = true) :
    IsSpread ws (text ++ gap) := by
  induction h with
  | nil => exact isSpread_blanks blank
  | blank head _ ih => exact .blank head ih
  | @word w ws text isWord apart _ ih =>
    rw [List.append_assoc]
    refine .word isWord (fun c hc => ?_) ih
    cases text with
    | nil => exact blank c (List.mem_of_mem_head? hc)
    | cons d text => exact apart c hc

theorem words_append_blanks (text : List Char) (blank : ∀ c ∈ gap, isBlank c = true) :
    words (text ++ gap) = words text :=
  words_of_isSpread ((isSpread_words text).append_blanks blank)

/-- What ends with the last word. -/
theorem IsSpread.exists_front (h : IsSpread ws text) (given : ws ≠ []) :
    ∃ front gap, text = front ++ gap ∧ (∀ c ∈ gap, isBlank c = true) ∧
      ∃ c, front.getLast? = some c ∧ isBlank c = false := by
  have some_left : text.rdropWhile isBlank ≠ [] := by
    intro all
    have none := isSpread_blanks (List.rdropWhile_eq_nil_iff.1 all)
    exact given ((words_of_isSpread h).symm.trans (words_of_isSpread none))
  refine ⟨text.rdropWhile isBlank, text.rtakeWhile isBlank, ?_, ?_, _, List.getLast?_eq_some_getLast some_left, ?_⟩
  · exact (List.rdropWhile_append_rtakeWhile).symm
  · exact fun c hc => List.mem_rtakeWhile_imp hc
  · exact Bool.eq_false_iff.2 (List.rdropWhile_last_not isBlank text some_left)

/-! ## What lies within a word -/

theorem exists_infix_of_isSpread {pattern : List Char} (isWord : IsWord pattern) (h : IsSpread ws text)
    (inside : pattern <:+: text) : ∃ w ∈ ws, pattern <:+: w := by
  have other : ∀ {c}, isBlank c = true → c ∉ pattern := fun blank hc => by simp [isWord.solid _ hc] at blank
  induction h with
  | nil => exact absurd (List.infix_nil.1 inside) isWord.given
  | @blank ws c text blank _ ih =>
    obtain front | inside := List.infix_cons_iff.1 inside
    · obtain ⟨d, rest, rfl⟩ := List.exists_cons_of_ne_nil isWord.given
      obtain rfl := (List.cons_prefix_cons.1 front).1
      exact absurd List.mem_cons_self (other blank)
    · exact ih inside
  | @word w ws text isWord apart _ ih =>
    obtain inside | inside := infix_or_infix (fun c hc => other (apart c hc)) inside
    · exact ⟨w, List.mem_cons_self, inside⟩
    · obtain ⟨v, hv, inside⟩ := ih inside
      exact ⟨v, List.mem_cons_of_mem w hv, inside⟩

end Telemetry.Text
