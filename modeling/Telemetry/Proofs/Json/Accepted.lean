import Telemetry.Proofs.Json.Reading

/-!
# What is read

A value that has been read is sorted, its integers are ones that are kept exactly, and at most `maxDepth`
containers lie in one another. While the reader is under way, each open container has room for those that
may still be opened in it.
-/

namespace Telemetry.Json

/-- What a value has that stands where at most `room` containers may be opened. -/
structure IsRead (room : Nat) (v : Json) : Prop where
  exact : v.IsExact
  sorted : v.IsSorted
  depth : v.depth ≤ room

theorem isRead_scalar {v : Json} (room : Nat) (hn : ∀ i, ¬ Part (.number (.int i)) v)
    (ho : ∀ fields, ¬ Part (.object fields) v) (hd : v.depth = 0) : IsRead room v := by
  refine ⟨?_, ?_, ?_⟩
  · intro i hi
    exact absurd hi (hn i)
  · intro fields hf
    exact absurd hf (ho fields)
  · rw [hd]
    exact Nat.zero_le room

theorem isRead_null (room : Nat) : IsRead room .null := isRead_scalar room nofun nofun rfl

theorem isRead_bool (room : Nat) (b : Bool) : IsRead room (.bool b) :=
  isRead_scalar room nofun nofun rfl

theorem isRead_string (room : Nat) (s : String) : IsRead room (.string s) :=
  isRead_scalar room nofun nofun rfl

theorem isExact_of_ofUnsigned? {negative : Bool} {cs : List Char} {i : Int}
    (h : Number.ofUnsigned? negative cs = some (.int i)) : Number.IsExact i := by
  unfold Number.ofUnsigned? at h
  simp only at h
  split at h
  · next small =>
    cases h
    obtain ⟨-, -, small⟩ := small
    exact ⟨by omega, by omega⟩
  · split at h
    · next small =>
      cases h
      obtain ⟨-, -, positive, small⟩ := small
      exact ⟨by omega, by omega⟩
    · obtain ⟨x, -, hx⟩ := Option.map_eq_some_iff.1 h
      cases hx

theorem isExact_of_ofChars? {cs : List Char} {i : Int}
    (h : Number.ofChars? cs = some (.int i)) : Number.IsExact i := by
  unfold Number.ofChars? at h
  split at h <;> exact isExact_of_ofUnsigned? h

theorem isRead_number (room : Nat) {cs : List Char} {n : Number}
    (h : Number.ofChars? cs = some n) : IsRead room (.number n) := by
  refine ⟨?_, ?_, Nat.zero_le room⟩
  · intro i hi
    cases hi
    exact isExact_of_ofChars? h
  · intro fields hf
    cases hf

theorem isRead_array {room : Nat} {items : List Json} (h : ∀ v ∈ items, IsRead room v) :
    IsRead (room + 1) (.array items) := by
  refine ⟨?_, ?_, ?_⟩
  · intro i hi
    cases hi with
    | item hv hp => exact (h _ hv).exact i hp
  · intro fields hf
    cases hf with
    | item hv hp => exact (h _ hv).sorted fields hp
  · rw [Json.depth, Nat.add_le_add_iff_right, itemDepth_le]
    exact fun v hv => (h v hv).depth

theorem isRead_object {room : Nat} {fields : List (String × Json)}
    (h : ∀ f ∈ fields, IsRead room f.2) : IsRead (room + 1) (.object (Dict.ofList fields)) := by
  have kept : ∀ f ∈ Dict.ofList fields, IsRead room f.2 := fun f hf => h f (Dict.mem_ofList hf)
  refine ⟨?_, ?_, ?_⟩
  · intro i hi
    cases hi with
    | field hv hp => exact (kept _ hv).exact i hp
  · intro inner hf
    cases hf with
    | whole => exact Dict.isSorted_ofList fields
    | field hv hp => exact (kept _ hv).sorted inner hp
  · rw [Json.depth, Nat.add_le_add_iff_right, fieldDepth_le]
    exact fun f hf => (kept f hf).depth

/-! ## The open containers -/

/-- The values that an open container holds so far. -/
def Frame.values : Frame → List Json
  | .array items => items
  | .object fields _ => fields.map (·.2)

/-- The values in each open container leave room for the containers around it. -/
def AreRead : List Frame → Prop
  | [] => True
  | f :: outer => (∀ v ∈ f.values, IsRead (maxDepth - (outer.length + 1)) v) ∧ AreRead outer

namespace Reader

structure IsSound (r : Reader) : Prop where
  room : r.frames.length ≤ maxDepth
  frames : AreRead r.frames
  result : ∀ v, r.result = some v → IsRead maxDepth v

theorem isSound_start : IsSound {} := ⟨Nat.zero_le _, trivial, nofun⟩

variable {r r' : Reader}

theorem IsSound.deliver (h : r.IsSound) {v : Json} (hv : IsRead (maxDepth - r.frames.length) v) :
    (r.deliver v).IsSound := by
  obtain ⟨scan, t, fs, res⟩ := r
  obtain ⟨room, frames, result⟩ := h
  cases fs with
  | nil =>
    refine ⟨room, frames, ?_⟩
    rintro w ⟨⟩
    exact hv
  | cons f outer =>
    obtain ⟨values, others⟩ := frames
    cases f with
    | array items => exact ⟨room, ⟨List.forall_mem_cons.2 ⟨hv, values⟩, others⟩, result⟩
    | object fields key => exact ⟨room, ⟨List.forall_mem_cons.2 ⟨hv, values⟩, others⟩, result⟩

theorem IsSound.push (h : r.IsSound) {f : Frame} (hf : f.values = []) (hr : r.push f = some r') :
    r'.IsSound := by
  unfold Reader.push at hr
  split at hr
  · next room =>
    cases hr
    refine ⟨room, ⟨?_, h.frames⟩, h.result⟩
    rw [hf]
    nofun
  · cases hr

theorem IsSound.pop (h : r.IsSound) : (r.pop Dict.ofList).IsSound := by
  obtain ⟨scan, t, fs, res⟩ := r
  obtain ⟨room, frames, result⟩ := h
  cases fs with
  | nil => exact ⟨room, frames, result⟩
  | cons f outer =>
    obtain ⟨values, others⟩ := frames
    rw [List.length_cons] at room
    have closed : IsSound ⟨scan, t, outer, res⟩ := ⟨Nat.le_of_succ_le room, others, result⟩
    have more : maxDepth - outer.length = maxDepth - (outer.length + 1) + 1 := by omega
    cases f with
    | array items =>
      refine closed.deliver ?_
      rw [more]
      exact isRead_array fun v hv => values v (List.mem_reverse.1 hv)
    | object fields key =>
      refine closed.deliver ?_
      rw [more]
      refine isRead_object fun f hf => values f.2 ?_
      exact List.mem_map_of_mem (List.mem_reverse.1 hf)

theorem IsSound.setKey (h : r.IsSound) (key : String) : (r.setKey key).IsSound := by
  obtain ⟨scan, t, fs, res⟩ := r
  cases fs with
  | nil => exact h
  | cons f outer =>
    cases f with
    | array items => exact h
    | object fields last => exact ⟨h.room, h.frames, h.result⟩

theorem IsSound.closeText (h : r.IsSound) {isKey : Bool} (hr : r.closeText isKey = some r') :
    r'.IsSound := by
  obtain ⟨cs, -, rfl⟩ := Option.map_eq_some_iff.1 hr
  dsimp only
  split
  · exact h.setKey _
  · exact h.deliver (isRead_string _ _)

theorem IsSound.closeNumber (h : r.IsSound) (hr : r.closeNumber = some r') : r'.IsSound := by
  obtain ⟨n, hn, rfl⟩ := Option.map_eq_some_iff.1 hr
  exact h.deliver (isRead_number _ hn)

theorem isRead_wordValue (room : Nat) (cs : List Char) : IsRead room (wordValue cs) := by
  unfold wordValue
  split
  · exact isRead_bool room true
  · exact isRead_bool room false
  · exact isRead_null room

theorem IsSound.structural (h : r.IsSound) {c : Char}
    (hr : r.structural Dict.ofList c = some r') : r'.IsSound := by
  unfold Reader.structural at hr
  split at hr
  · cases hr
    exact ⟨h.room, h.frames, h.result⟩
  · exact h.push rfl hr
  · exact h.push rfl hr
  · cases hr
    exact h.pop
  · cases hr
    exact h.pop
  · split at hr
    · cases hr
      exact h
    · cases hr
      exact ⟨h.room, h.frames, h.result⟩

theorem IsSound.step (h : r.IsSound) {c : Char} (hr : r.step Dict.ofList c = some r') :
    r'.IsSound := by
  obtain ⟨next, -, hr⟩ := Option.bind_eq_some_iff.1 hr
  have moved : IsSound { r with scan := next } := ⟨h.room, h.frames, h.result⟩
  have kept : IsSound (keep c { r with scan := next }) := ⟨h.room, h.frames, h.result⟩
  dsimp only at hr
  split at hr
  · cases hr; exact kept
  · cases hr; exact kept
  · exact moved.closeText hr
  · cases hr; exact kept
  · cases hr; exact kept
  · cases hr; exact kept
  · cases hr; exact moved.deliver (isRead_wordValue _ _)
  · cases hr; exact kept
  · obtain ⟨ended, closed, hr⟩ := Option.bind_eq_some_iff.1 hr
    exact (moved.closeNumber closed).structural hr
  · exact moved.structural hr

theorem IsSound.run (h : r.IsSound) {cs : List Char} (hr : r.run Dict.ofList cs = some r') :
    r'.IsSound := by
  induction cs generalizing r with
  | nil => cases hr; exact h
  | cons c cs ih =>
    obtain ⟨next, first, rest⟩ := Option.bind_eq_some_iff.1 hr
    exact ih (h.step first) rest

theorem IsSound.finish (h : r.IsSound) {v : Json} (hv : r.finish = some v) : IsRead maxDepth v := by
  unfold Reader.finish at hv
  split at hv
  · split at hv
    · obtain ⟨ended, closed, hv⟩ := Option.bind_eq_some_iff.1 hv
      exact (h.closeNumber closed).result v hv
    · exact h.result v hv
  · cases hv

end Reader

/-- A value that has been read is sorted and exact, and not too deep. -/
theorem isRead_of_read? {s : String} {v : Json} (h : read? s = some v) : IsRead maxDepth v := by
  obtain ⟨r, ran, finished⟩ := Option.bind_eq_some_iff.1 h
  exact (Reader.isSound_start.run ran).finish finished

/-- What has been read and has only integers is printed as a text from which it is read again. -/
theorem read?_render {s : String} {v : Json} (h : read? s = some v) (hi : v.IsIntegral)
    (hn : ∀ n, v ≠ .number n) : read? v.render = some v := by
  have read := isRead_of_read? h
  rw [read?, readWith_render _ hn (hi.isFaithful read.exact), if_pos read.depth,
    gathered_of_isSorted v read.sorted]

end Telemetry.Json
