import Telemetry.Json.Basic
import Telemetry.Proofs.Dict

/-!
# The shape of values

How deep the containers of a value lie in one another, what stands in it, and what becomes of it when the
fields of its objects are kept in another way.
-/

namespace Telemetry.Json

mutual

/-- The greatest number of containers that lie around one part of the value. -/
def depth : Json → Nat
  | .array items => itemDepth items + 1
  | .object fields => fieldDepth fields + 1
  | .null | .bool _ | .number _ | .string _ => 0

def itemDepth : List Json → Nat
  | [] => 0
  | v :: items => max (depth v) (itemDepth items)

def fieldDepth : List (String × Json) → Nat
  | [] => 0
  | (_, v) :: fields => max (depth v) (fieldDepth fields)

end

mutual

/-- The value with the fields of each object kept as `gather` says. -/
def gathered (gather : List (String × Json) → List (String × Json)) : Json → Json
  | .array items => .array (gatheredItems gather items)
  | .object fields => .object (gather (gatheredFields gather fields))
  | .null => .null
  | .bool b => .bool b
  | .number n => .number n
  | .string s => .string s

def gatheredItems (gather : List (String × Json) → List (String × Json)) : List Json → List Json
  | [] => []
  | v :: items => gathered gather v :: gatheredItems gather items

def gatheredFields (gather : List (String × Json) → List (String × Json)) :
    List (String × Json) → List (String × Json)
  | [] => []
  | (k, v) :: fields => (k, gathered gather v) :: gatheredFields gather fields

end

/-- The value `w` is `v` or stands in it. -/
inductive Part (w : Json) : Json → Prop
  | whole : Part w w
  | item {v : Json} {items : List Json} : v ∈ items → Part w v → Part w (.array items)
  | field {k : String} {v : Json} {fields : List (String × Json)} :
    (k, v) ∈ fields → Part w v → Part w (.object fields)

/-- Each number is an integer. -/
def IsIntegral (v : Json) : Prop := ∀ n, Part (.number n) v → ∃ i, n = .int i

/-- Each integer is one that is kept exactly. -/
def IsExact (v : Json) : Prop := ∀ i, Part (.number (.int i)) v → Number.IsExact i

/-- The fields of each object are sorted. -/
def IsSorted (v : Json) : Prop := ∀ fields, Part (.object fields) v → Dict.IsSorted fields

theorem Part.trans {u v w : Json} (h : Part u v) (h' : Part v w) : Part u w := by
  induction h' with
  | whole => exact h
  | item hv _ ih => exact .item hv ih
  | field hv _ ih => exact .field hv ih

variable {v w : Json}

theorem IsSorted.part (h : v.IsSorted) (hw : Part w v) : w.IsSorted :=
  fun fields hf => h fields (hf.trans hw)

theorem part_item {items : List Json} (h : v ∈ items) : Part v (.array items) := .item h .whole

theorem part_field {k : String} {fields : List (String × Json)} (h : (k, v) ∈ fields) :
    Part v (.object fields) := .field h .whole

/-! ## Sorted values are kept as they are -/

mutual

theorem gathered_of_isSorted : ∀ v : Json, v.IsSorted → v.gathered Dict.ofList = v
  | .null, _ | .bool _, _ | .number _, _ | .string _, _ => rfl
  | .array items, h => by
    rw [gathered, gatheredItems_of_isSorted items fun v hv => h.part (part_item hv)]
  | .object fields, h => by
    have kept := gatheredFields_of_isSorted fields fun k v hv => h.part (part_field hv)
    rw [gathered, kept, Dict.ofList_of_isSorted (h fields .whole)]

theorem gatheredItems_of_isSorted : ∀ items : List Json, (∀ v ∈ items, v.IsSorted) →
    gatheredItems Dict.ofList items = items
  | [], _ => rfl
  | v :: items, h => by
    rw [gatheredItems, gathered_of_isSorted v (h v List.mem_cons_self),
      gatheredItems_of_isSorted items fun w hw => h w (List.mem_cons_of_mem v hw)]

theorem gatheredFields_of_isSorted : ∀ fields : List (String × Json),
    (∀ k v, (k, v) ∈ fields → IsSorted v) → gatheredFields Dict.ofList fields = fields
  | [], _ => rfl
  | (k, v) :: fields, h => by
    rw [gatheredFields, gathered_of_isSorted v (h k v List.mem_cons_self),
      gatheredFields_of_isSorted fields fun k' w hw => h k' w (List.mem_cons_of_mem (k, v) hw)]

end

/-! ## Depth -/

theorem itemDepth_le {items : List Json} {d : Nat} :
    itemDepth items ≤ d ↔ ∀ v ∈ items, v.depth ≤ d := by
  induction items with
  | nil => simp [itemDepth]
  | cons v items ih => rw [itemDepth, Nat.max_le, ih, List.forall_mem_cons]

theorem fieldDepth_le {fields : List (String × Json)} {d : Nat} :
    fieldDepth fields ≤ d ↔ ∀ f ∈ fields, f.2.depth ≤ d := by
  induction fields with
  | nil => simp [fieldDepth]
  | cons f fields ih => rw [fieldDepth, Nat.max_le, ih, List.forall_mem_cons]

theorem lt_itemDepth {items : List Json} {d : Nat} :
    d < itemDepth items ↔ ∃ v ∈ items, d < v.depth := by
  rw [← Nat.not_le, itemDepth_le]
  simp

theorem lt_fieldDepth {fields : List (String × Json)} {d : Nat} :
    d < fieldDepth fields ↔ ∃ f ∈ fields, d < f.2.depth := by
  rw [← Nat.not_le, fieldDepth_le]
  simp

end Telemetry.Json
