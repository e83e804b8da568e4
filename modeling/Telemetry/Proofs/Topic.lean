import Telemetry.Broker.Basic
import Telemetry.Proofs.Json.Numeral
import Telemetry.Proofs.Settings
import Telemetry.Text.Cut

/-!
# Topics of different devices

The segments in front of the device id are free text, so a topic is taken apart from its end: the last segment is the
item or the word for the presence, and neither it nor the device id has a slash. Under accepted settings no two topics
coincide, unless it is the same topic of the same device, and none is a pattern for others.
-/

namespace Telemetry

theorem Text.append_cons_inj {c : Char} {a b x y : List Char} (hx : c ∉ x) (hy : c ∉ y) :
    a ++ c :: x = b ++ c :: y ↔ a = b ∧ x = y := by
  constructor
  · intro h
    have reversed : x.reverse ++ c :: a.reverse = y.reverse ++ c :: b.reverse := by
      simpa using congrArg List.reverse h
    have cut := congrArg (Text.splitFirst c) reversed
    rw [Text.splitFirst_append (by simpa using hx), Text.splitFirst_append (by simpa using hy)] at cut
    simp only [Option.some.injEq, Prod.mk.injEq, List.reverse_inj] at cut
    exact ⟨cut.2, cut.1⟩
  · rintro ⟨rfl, rfl⟩
    rfl

/-- A broker publishes on the topics of its settings. -/
@[simp] theorem Broker.topics_load {β σ : Type} [Storage σ] (s : Settings) (watched : Bool) (client : β)
    (board : Board σ) : (load s.broker s.device.id watched client board).topics = s.topics := rfl

namespace Topics

variable {t u : Topics} {id i j : UInt32}

/-- What all topics of a device begin with. -/
def device (t : Topics) : List Char := t.root.toList ++ '/' :: t.deviceId.toList

theorem toList_item (t : Topics) (id : UInt32) :
    (t.item id).toList = (t.device ++ "/items".toList) ++ '/' :: Nat.toDigits 10 id.toNat := by
  simp [item, device, Nat.toList_repr]

theorem toList_presence (t : Topics) : t.presence.toList = t.device ++ '/' :: "status".toList := by
  simp [presence, device]

theorem slash_notMem_digits (n : Nat) : '/' ∉ Nat.toDigits 10 n :=
  fun slash => absurd (Json.isDigit_of_mem_toDigits slash) (by decide)

theorem device_inj (ht : '/' ∉ t.deviceId.toList) (hu : '/' ∉ u.deviceId.toList) (h : t.device = u.device) : t = u := by
  obtain ⟨root, deviceId⟩ := (Text.append_cons_inj ht hu).1 h
  rw [String.toList_inj] at root deviceId
  cases t
  cases u
  simp_all

theorem item_inj (h : t.item i = u.item j) : t.device = u.device ∧ i = j := by
  have same := congrArg String.toList h
  rw [toList_item, toList_item, Text.append_cons_inj (slash_notMem_digits _) (slash_notMem_digits _)] at same
  obtain ⟨front, digits⟩ := same
  have number := congrArg (fun ds => Nat.ofDigitChars 10 ds 0) digits
  exact ⟨List.append_cancel_right front, UInt32.toNat_inj.1 (by simpa using number)⟩

theorem presence_inj (h : t.presence = u.presence) : t.device = u.device := by
  have same := congrArg String.toList h
  rw [toList_presence, toList_presence] at same
  exact List.append_cancel_right same

theorem item_ne_presence (t u : Topics) (id : UInt32) : t.item id ≠ u.presence := by
  intro h
  have same := congrArg String.toList h
  rw [toList_item, toList_presence, Text.append_cons_inj (slash_notMem_digits _) (by decide)] at same
  have digits : 's' ∈ Nat.toDigits 10 id.toNat := same.2 ▸ by simp
  exact absurd (Json.isDigit_of_mem_toDigits digits) (by decide)

/-- Outside its root and its device id a topic consists of slashes, letters and digits. -/
theorem notMem_of_notMem_device (id : UInt32) {c : Char} (h : c ∉ t.device) (plain : c ≠ '/' ∧ c.isAlphanum = false) :
    c ∉ (t.item id).toList ∧ c ∉ t.presence.toList := by
  have words : ∀ d ∈ "/items".toList ++ "status".toList, d = '/' ∨ d.isAlphanum = true := by simp [Char.isAlphanum]
  have digits : c ∉ Nat.toDigits 10 id.toNat := by
    intro inside
    simp [Char.isAlphanum, Json.isDigit_of_mem_toDigits inside] at plain
  rw [toList_item, toList_presence]
  grind

end Topics

/-- Under accepted settings a topic tells which item of which device it is for, or that it is the presence of a device,
and it is no pattern for topics. -/
theorem topics_apart {s t : Settings} (hs : s.validate = .ok ()) (ht : t.validate = .ok ()) (i j : UInt32) :
    (s.topics.item i = t.topics.item j → i = j ∧ s.topics = t.topics) ∧
      (s.topics.presence = t.topics.presence → s.topics = t.topics) ∧
      s.topics.item i ≠ t.topics.presence ∧
      ∀ topic ∈ [s.topics.item i, s.topics.presence], '+' ∉ topic.toList ∧ '#' ∉ topic.toList := by
  have whole : s.topics.device = t.topics.device → s.topics = t.topics :=
    Topics.device_inj (Settings.notMem_deviceId hs (by decide)) (Settings.notMem_deviceId ht (by decide))
  have free : '+' ∉ s.topics.device ∧ '#' ∉ s.topics.device := by
    obtain ⟨plus, hash⟩ := Settings.notMem_topicRoot hs
    have plus' := Settings.notMem_deviceId hs (c := '+') (by decide)
    have hash' := Settings.notMem_deviceId hs (c := '#') (by decide)
    simp [Topics.device, Settings.topics, *]
  refine ⟨fun same => ?_, fun same => whole (Topics.presence_inj same), Topics.item_ne_presence _ _ _, ?_⟩
  · obtain ⟨device, item⟩ := Topics.item_inj same
    exact ⟨item, whole device⟩
  · obtain ⟨plus, plus'⟩ := Topics.notMem_of_notMem_device i free.1 (by decide)
    obtain ⟨hash, hash'⟩ := Topics.notMem_of_notMem_device i free.2 (by decide)
    simp [*]

/-- Segments that look like the end of a topic do not make two topics the same. -/
theorem nested_topics_apart :
    let s : Settings := { device := { id := "items" }, broker := { topicRoot := "records/unit-4" } }
    let t : Settings := { device := { id := "unit-4" } }
    s.validate = .ok () ∧ t.validate = .ok () ∧ s.topics.item 17 = "records/unit-4/items/items/17" ∧
      t.topics.item 17 = "records/unit-4/items/17" ∧ s.topics.item 17 ≠ t.topics.item 17 :=
  ⟨rfl, rfl, rfl, rfl, fun same => absurd ((topics_apart rfl rfl 17 17).1 same).2 (by decide)⟩

end Telemetry
