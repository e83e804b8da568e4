import Telemetry.Proofs.Relay.Segments

/-!
# Offsets in the buffer

While an assembler collects behind garbage it remembers where the braces are, counted from the brace that ended the
garbage, and a slide leaves what it remembers alone. `Indexed` is the same assembler with the braces counted from the
front of the buffer. Here a slide takes its cut off each offset, and the end of a line cuts the buffer at an offset. A
subtraction below zero and a cut behind the end have no result.

Both take the same steps, whatever the bytes are. So in no state that is reached does an offset leave the buffer, and
a slide that succeeds makes room.
-/

namespace Telemetry.Relay.Assembler

/-! ## Counting from the front of the buffer -/

inductive Indexed.Mode
  | normal
  | discarding
  /-- The offsets of the braces in the buffer. -/
  | resync (offsets : List Nat)
  deriving DecidableEq, Repr

/-- An assembler that counts offsets from the front of its buffer. -/
structure Indexed where
  limit : Nat
  buffer : List UInt8 := []
  mode : Indexed.Mode := .normal
  dropped : Nat := 0
  deriving DecidableEq, Repr

namespace Indexed

def ofLimit (limit : Nat) : Indexed := { limit }

/-- The bytes from the offset on. There is no result if the offset is behind the end. -/
def cut? (offset : Nat) (bytes : List UInt8) : Option (List UInt8) :=
  if offset ≤ bytes.length then some (bytes.drop offset) else none

/-- The offset counted from the cut. There is no result below zero. -/
def subtract? (cut offset : Nat) : Option Nat := if cut ≤ offset then some (offset - cut) else none

def skip (byte : UInt8) (x : Indexed) : Indexed :=
  if byte = newline then { x with mode := .normal }
  else if byte = brace then { x with buffer := [byte], mode := .resync [0] }
  else x

/-- Makes room by dropping all before the second brace, if there is one. -/
def slide (x : Indexed) : Option (Option Indexed) :=
  match x.mode with
  | .resync (_ :: cut :: offsets) => do
    let buffer ← cut? cut x.buffer
    let offsets ← (cut :: offsets).mapM (subtract? cut)
    return some { x with buffer, mode := .resync offsets }
  | _ => some none

def collect (byte : UInt8) (x : Indexed) : Indexed :=
  { x with
    buffer := x.buffer ++ [byte]
    mode :=
      match x.mode with
      | .resync offsets => .resync (if byte = brace then offsets ++ [x.buffer.length] else offsets)
      | mode => mode }

def overflow (x : Indexed) : Indexed :=
  { x with buffer := [], mode := .discarding, dropped := x.dropped + 1 }

/-- The first of the offsets from which the rest of the bytes is JSON. -/
def jsonOffset (bytes : List UInt8) : List Nat → Option (Option Nat)
  | [] => some none
  | offset :: offsets => do
    let suffix ← cut? offset bytes
    if Json.isJson suffix then return some offset else jsonOffset bytes offsets

/-- The line as it is handed out. -/
def cutGarbage (mode : Mode) (bytes : List UInt8) : Option (List UInt8) :=
  match mode with
  | .resync offsets => do
    match ← jsonOffset bytes offsets with
    | some offset => cut? offset bytes
    | none => return bytes
  | _ => some bytes

def finishLine (x : Indexed) : Option (Option String × Indexed) :=
  let fresh := { x with buffer := [], mode := .normal }
  if x.buffer.isEmpty then some (none, fresh)
  else do
    match Text.ofUtf8? (← cutGarbage x.mode x.buffer) with
    | some line => return (some line, fresh)
    | none => return (none, { fresh with dropped := x.dropped + 1 })

def push (byte : UInt8) (x : Indexed) : Option (Option String × Indexed) :=
  if x.mode = .discarding then some (none, x.skip byte)
  else if byte = carriageReturn then some (none, x)
  else if byte = newline then x.finishLine
  else if x.buffer.length < x.limit then some (none, x.collect byte)
  else do
    match ← x.slide with
    | some roomy => return (none, roomy.collect byte)
    | none => return (none, x.overflow)

def feed : List UInt8 → Indexed → Option (List String × Indexed)
  | [], x => some ([], x)
  | byte :: rest, x => do
    let r ← x.push byte
    let s ← feed rest r.2
    return (r.1.toList ++ s.1, s.2)

/-- The offsets are those of the braces among the bytes, in order, and the first byte is one. -/
structure Places (offsets : List Nat) (bytes : List UInt8) : Prop where
  nonempty : bytes ≠ []
  mem_iff : ∀ i, i ∈ offsets ↔ bytes[i]? = some brace
  ascending : offsets.Pairwise (· < ·)
  first : offsets.head? = some 0

/-- What holds of the buffer and the offsets between two bytes. -/
structure Orderly (x : Indexed) : Prop where
  fits : x.buffer.length ≤ x.limit
  unended : newline ∉ x.buffer ∧ carriageReturn ∉ x.buffer
  empty : x.mode = .discarding → x.buffer = []
  places : ∀ offsets, x.mode = .resync offsets → Places offsets x.buffer

end Indexed

/-- The assembler with its offsets counted from the front of the buffer. -/
def indexed (a : Assembler) : Indexed where
  limit := a.limit
  buffer := a.buffer.toList
  mode :=
    match a.mode with
    | .normal => .normal
    | .discarding => .discarding
    | .resync starts => .resync (starts.toList.map (· - (starts.get? 0).getD 0))
  dropped := a.dropped

variable {a roomy : Assembler} {bytes text : List UInt8}

/-! ## The places of the braces -/

theorem mem_braces {start i : Nat} :
    i ∈ braces start bytes ↔ start ≤ i ∧ bytes[i - start]? = some brace := by
  fun_induction braces start bytes <;> grind

theorem pairwise_braces (start : Nat) (bytes : List UInt8) : (braces start bytes).Pairwise (· < ·) := by
  fun_induction braces start bytes with
  | case1 => exact .nil
  | case2 start bytes ih =>
    refine List.pairwise_cons.2 ⟨fun i hi => ?_, ih⟩
    have := (mem_braces.1 hi).1
    omega
  | case3 start b bytes hb ih => exact ih

theorem braces_add (cut start : Nat) (bytes : List UInt8) :
    braces (cut + start) bytes = (braces start bytes).map (cut + ·) := by
  induction bytes generalizing start with
  | nil => rfl
  | cons b bytes ih =>
    rw [braces, braces, Nat.add_assoc, ih]
    split <;> rfl

/-- Counted from the first byte, the places are the same wherever the count began. -/
theorem map_sub_braces (start : Nat) (bytes : List UInt8) :
    (braces start bytes).map (· - start) = braces 0 bytes := by
  have shifted := braces_add start 0 bytes
  rw [Nat.add_zero] at shifted
  rw [shifted, List.map_map]
  simp [Function.comp_def]

theorem places_braces (rest : List UInt8) : Indexed.Places (braces 0 (brace :: rest)) (brace :: rest) where
  nonempty := List.cons_ne_nil _ _
  mem_iff i := by simp [mem_braces]
  ascending := pairwise_braces 0 _
  first := rfl

/-- No offset goes below zero if none is in front of the cut. -/
theorem mapM_subtract? {cut : Nat} {offsets : List Nat} (behind : ∀ i ∈ offsets, cut ≤ i) :
    offsets.mapM (Indexed.subtract? cut) = some (offsets.map (· - cut)) := by
  induction offsets with
  | nil => rfl
  | cons i offsets ih =>
    obtain ⟨first, others⟩ := List.forall_mem_cons.1 behind
    rw [List.mapM_cons, ih others, Indexed.subtract?, if_pos first]
    rfl

theorem mapM_subtract?_braces (cut : Nat) (bytes : List UInt8) :
    (braces cut bytes).mapM (Indexed.subtract? cut) = some (braces 0 bytes) := by
  rw [mapM_subtract? fun i hi => (mem_braces.1 hi).1, map_sub_braces]

theorem cut?_append (x bytes : List UInt8) : Indexed.cut? x.length (x ++ bytes) = some bytes := by
  rw [Indexed.cut?, if_pos (by simp), List.drop_left]

/-- The search ends at the longest suffix that begins with a brace and is JSON. -/
theorem jsonOffset_braces (x bytes : List UInt8) :
    Indexed.jsonOffset (x ++ bytes) (braces x.length bytes) =
      some ((firstJson? bytes).map fun suffix => (x ++ bytes).length - suffix.length) := by
  -- What the search has passed over goes to `x`, so the whole that is cut stays the same.
  induction bytes generalizing x with
  | nil => rfl
  | cons b bytes ih =>
    have rest := ih (x ++ [b])
    rw [List.append_assoc, List.length_append, List.singleton_append, List.length_singleton] at rest
    rw [braces, firstJson?]
    by_cases hb : b = brace
    · rw [if_pos hb, Indexed.jsonOffset, cut?_append]
      by_cases json : Json.isJson (b :: bytes) = true
      · simp [hb, hb ▸ json]
      · simp [json, rest]
    · rw [if_neg hb, if_neg (fun h => hb h.1)]
      exact rest

/-! ## One step -/

/-- Behind garbage, what the assembler remembers is where the braces in its buffer are. -/
inductive Located (a : Assembler) : Prop
  | line (mode : a.mode = .normal)
  | skipping (mode : a.mode = .discarding)
  | behind (bytes : List UInt8) (collected : a.Resyncing bytes)

theorem Resyncing.indexed_eq (h : a.Resyncing bytes) :
    a.indexed = { limit := a.limit, buffer := bytes, mode := .resync (braces 0 bytes), dropped := a.dropped } := by
  obtain ⟨rest, rfl⟩ := h.front
  obtain ⟨starts, start, mode, found⟩ := h.starts
  have first : starts.get? 0 = some start := by
    rw [Window.get?_eq, found]
    rfl
  simp only [indexed, mode, h.holds, first, found, Option.getD_some, map_sub_braces]

theorem indexed_mode_discarding : a.indexed.mode = .discarding ↔ a.mode = .discarding := by
  unfold indexed
  cases a.mode <;> simp

theorem indexed_skip (byte : UInt8) (a : Assembler) : (a.skip byte).indexed = a.indexed.skip byte := by
  unfold skip Indexed.skip
  split
  · rfl
  · split <;> rfl

theorem Located.indexed_collect (h : a.Located) (byte : UInt8) :
    (a.collect byte).indexed = a.indexed.collect byte := by
  cases h with
  | line mode | skipping mode => simp [collect, indexed, Indexed.collect, mode]
  | behind bytes collected =>
    obtain ⟨more, limit⟩ := collected.collect byte
    rw [more.indexed_eq, collected.indexed_eq, Indexed.collect, limit, braces_append]
    dsimp only
    split
    · next hb => simp [braces, hb, collect]
    · next hb => simp [braces, hb, collect]

theorem dropped_slide? (h : a.slide? = some roomy) : roomy.dropped = a.dropped := by
  unfold slide? at h
  split at h
  · split at h
    · cases h
      rfl
    · cases h
  · cases h

/-- A slide cuts off the bytes in front of the second brace, of which there is at least one. -/
theorem Located.indexed_slide (h : a.Located) :
    a.indexed.slide = some (a.slide?.map indexed) ∧
      ∀ roomy, a.slide? = some roomy → roomy.Located ∧ roomy.buffer.size < a.buffer.size := by
  cases h with
  | line mode | skipping mode =>
    have alone : a.slide? = none := by simp only [slide?, mode]
    rw [alone]
    refine ⟨by simp [indexed, Indexed.slide, mode], fun _ hr => ?_⟩
    cases hr
  | behind bytes collected =>
    obtain ⟨x, y, roomy, rfl, hx, slid, limit, cut⟩ | ⟨x, rfl, hx, alone⟩ := collected.slide_cases
    · have found : braces 0 (brace :: x ++ brace :: y) = 0 :: braces (brace :: x).length (brace :: y) := by
        rw [braces_append, braces, if_pos rfl, braces_of_notMem hx, Nat.zero_add]
        rfl
      have second : braces (brace :: x).length (brace :: y) =
          (brace :: x).length :: braces ((brace :: x).length + 1) y := by
        rw [braces, if_pos rfl]
      have shifted := mapM_subtract?_braces (brace :: x).length (brace :: y)
      -- The second brace is as far behind the front as the cut, so it is what the others are counted from afterwards.
      rw [second] at found shifted
      refine ⟨?_, fun other hr => ?_⟩
      · rw [slid, Option.map_some, collected.indexed_eq, cut.indexed_eq, limit, dropped_slide? slid, found]
        simp only [Indexed.slide, cut?_append, shifted]
        rfl
      · cases slid.symm.trans hr
        refine ⟨.behind _ cut, ?_⟩
        rw [cut.size, collected.size]
        simp only [List.length_append, List.length_cons]
        omega
    · rw [alone, collected.indexed_eq, braces, if_pos rfl, braces_of_notMem hx]
      refine ⟨rfl, fun _ hr => ?_⟩
      cases hr

/-- The cut at the end of a line is within the buffer. -/
theorem Located.indexed_cutGarbage (h : a.Located) :
    Indexed.cutGarbage a.indexed.mode a.indexed.buffer = some (cutGarbage a.mode a.buffer.toList) := by
  cases h with
  | line mode | skipping mode => simp [indexed, Indexed.cutGarbage, cutGarbage, mode]
  | behind bytes collected =>
    rw [collected.cutGarbage, collected.indexed_eq]
    have search := jsonOffset_braces [] bytes
    rw [List.nil_append, List.length_nil] at search
    unfold Indexed.cutGarbage
    simp only [search]
    cases found : firstJson? bytes with
    | none => rfl
    | some suffix =>
      obtain ⟨⟨x, split⟩, -⟩ := suffix_of_firstJson? found
      have place : bytes.length - suffix.length = x.length := by
        rw [split, List.length_append]
        omega
      rw [Option.map_some, Option.getD_some, place, split]
      exact cut?_append x suffix

theorem Located.indexed_finishLine (h : a.Located) :
    a.indexed.finishLine = some (a.finishLine.1, a.finishLine.2.indexed) := by
  have cut := h.indexed_cutGarbage
  have empty : a.indexed.buffer.isEmpty = a.buffer.isEmpty := Window.isEmpty_toList a.buffer
  unfold Indexed.finishLine finishLine
  rw [cut, empty]
  dsimp only
  split
  · rfl
  · rw [Option.bind_eq_bind, Option.bind_some]
    cases Text.ofUtf8? (cutGarbage a.mode a.buffer.toList) <;> rfl

/-- Both assemblers take the same step. -/
theorem Located.indexed_push (h : a.Located) (byte : UInt8) :
    a.indexed.push byte = some ((a.push byte).1, (a.push byte).2.indexed) := by
  by_cases hm : a.mode = .discarding
  · rw [push_discarding hm, Indexed.push, if_pos (indexed_mode_discarding.2 hm), indexed_skip]
  · have size : a.indexed.buffer.length = a.buffer.size := Window.length_toList a.buffer
    have limit : a.indexed.limit = a.limit := rfl
    rw [Indexed.push, if_neg (mt indexed_mode_discarding.1 hm), size, limit]
    by_cases hc : byte = carriageReturn
    · subst hc
      rw [if_pos rfl, push_carriageReturn hm]
    by_cases hn : byte = newline
    · subst hn
      rw [if_neg hc, if_pos rfl, push_end hm, h.indexed_finishLine]
    rw [if_neg hc, if_neg hn]
    by_cases hs : a.buffer.size < a.limit
    · rw [if_pos hs, push_room hm hn hc hs, h.indexed_collect]
    · have full := Nat.le_of_not_lt hs
      obtain ⟨same, cut⟩ := h.indexed_slide
      rw [if_neg hs, same]
      cases slid : a.slide? with
      | none =>
        rw [push_overflow hm hn hc full slid]
        rfl
      | some roomy =>
        rw [push_slide hm hn hc full slid, (cut roomy slid).1.indexed_collect]
        rfl

/-! ## What is reached -/

/-- The assembler is somewhere in a line. -/
def InLine (a : Assembler) : Prop := ∃ text, Taken text a ∧ newline ∉ text ∧ carriageReturn ∉ text

theorem IsFresh.inLine (h : a.IsFresh) : a.InLine := ⟨[], h.taken, List.not_mem_nil, List.not_mem_nil⟩

theorem InLine.located (h : a.InLine) : a.Located := by
  obtain ⟨text, taken, -⟩ := h
  cases taken with
  | whole mode _ _ => exact .line mode
  | skipping mode _ _ => exact .skipping mode
  | behind _ bytes _ _ collected _ => exact .behind bytes collected

theorem InLine.orderly (h : a.InLine) : a.indexed.Orderly := by
  obtain ⟨text, taken, unended⟩ := h
  cases taken with
  | whole mode holds fits =>
    subst holds
    exact {
      fits
      unended
      empty := fun discarding => by simp [indexed_mode_discarding, mode] at discarding
      places := fun offsets resync => by simp [indexed, mode] at resync }
  | skipping mode empty long =>
    have nothing : a.indexed.buffer = [] := by rw [indexed, empty, Window.toList_empty]
    exact {
      fits := by simp [nothing]
      unended := by simp [nothing]
      empty := fun _ => nothing
      places := fun offsets resync => by simp [indexed, mode] at resync }
  | behind garbage bytes split long collected fits =>
    subst split
    obtain ⟨rest, rfl⟩ := collected.front
    rw [collected.indexed_eq]
    exact {
      fits
      unended := ⟨fun hn => unended.1 (List.mem_append_right _ hn),
        fun hc => unended.2 (List.mem_append_right _ hc)⟩
      empty := fun discarding => by cases discarding
      places := fun offsets resync => by
        cases resync
        exact places_braces rest }

theorem InLine.push (h : a.InLine) (room : 0 < a.limit) (byte : UInt8) :
    (a.push byte).2.InLine ∧ (a.push byte).2.limit = a.limit := by
  obtain ⟨text, taken, unended⟩ := h
  by_cases hn : byte = newline
  · subst hn
    obtain ⟨-, fresh, limit⟩ := taken.finish
    exact ⟨fresh.inLine, limit⟩
  · refine ⟨⟨_, taken.push room hn, ?_, ?_⟩, (taken.midline.push room hn).2.1⟩
    · simp [content, unended.1, Ne.symm hn]
    · simp [content, unended.2]

/-- Both assemblers hand on the same lines. -/
theorem InLine.feed (h : a.InLine) (room : 0 < a.limit) (bytes : List UInt8) :
    a.indexed.feed bytes = some ((a.feed bytes).1, (a.feed bytes).2.indexed) ∧
      (a.feed bytes).2.InLine ∧ (a.feed bytes).2.limit = a.limit := by
  induction bytes generalizing a with
  | nil => exact ⟨rfl, h, rfl⟩
  | cons byte bytes ih =>
    obtain ⟨next, limit⟩ := h.push room byte
    obtain ⟨same, reached, limit'⟩ := ih next (by rwa [limit])
    refine ⟨?_, reached, limit'.trans limit⟩
    rw [Indexed.feed, h.located.indexed_push]
    dsimp only [Option.bind_eq_bind, Option.bind_some]
    rw [same]
    rfl

/-- Whatever bytes come in, the offsets counted from the front of the buffer are those of its braces. A slide goes
neither below zero nor beyond the end and makes room if it succeeds, and the end of a line cuts within the buffer. -/
theorem offsets_fit {limit : Nat} (room : 0 < limit) (bytes : List UInt8) :
    ∃ lines a, (ofLimit limit).feed bytes = (lines, a) ∧ a.limit = limit ∧
      (Indexed.ofLimit limit).feed bytes = some (lines, a.indexed) ∧ a.indexed.Orderly ∧
      a.indexed.slide = some (a.slide?.map indexed) ∧
      (∀ roomy, a.slide? = some roomy → roomy.buffer.size < a.buffer.size) ∧
      a.indexed.finishLine = some (a.finishLine.1, a.finishLine.2.indexed) := by
  obtain ⟨same, reached, limit_eq⟩ := (isFresh_ofLimit limit).inLine.feed room bytes
  obtain ⟨slide, cut⟩ := reached.located.indexed_slide
  exact ⟨_, _, rfl, limit_eq, same, reached.orderly, slide, fun roomy slid => (cut roomy slid).2,
    reached.located.indexed_finishLine⟩

/-- A line that is too long for four bytes. The last byte of it needs a slide. -/
def crowded : List UInt8 := Text.utf8 "vwxyz\x7ba\x7bb\x7b"

theorem offsets_crowded :
    0 < 4 ∧ ∃ a, (ofLimit 4).feed crowded = ([], a) ∧ a.indexed.mode = .resync [0, 2] ∧ a.indexed.Orderly ∧
      ∃ roomy, a.slide? = some roomy ∧ a.indexed.slide = some (some roomy.indexed) ∧
        roomy.buffer.size < a.buffer.size := by
  have room : 0 < 4 := by decide
  obtain ⟨lines, a, fed, -, -, orderly, slide, shorter, -⟩ := offsets_fit room crowded
  obtain rfl : lines = [] := by
    have silent : ((ofLimit 4).feed crowded).1 = [] := by decide +kernel
    rwa [fed] at silent
  have offsets : ((ofLimit 4).feed crowded).2.indexed.mode = .resync [0, 2] := by decide +kernel
  have slides : ((ofLimit 4).feed crowded).2.slide?.isSome = true := by decide +kernel
  rw [fed] at offsets slides
  obtain ⟨roomy, slid⟩ := Option.isSome_iff_exists.1 slides
  rw [slid] at slide
  exact ⟨room, a, fed, offsets, orderly, roomy, slid, slide, shorter roomy slid⟩

end Telemetry.Relay.Assembler
