import Telemetry.Settings.Basic

/-!
# Accepted settings

Settings are accepted when none of their checks fails. What the checks say of the values is stated here for those that
other proofs build on.
-/

namespace Telemetry

namespace Topic

theorem checkDeviceId_eq_ok_iff {id : String} :
    checkDeviceId id = .ok () ↔ id ≠ "" ∧ ∀ c ∈ id.toList, isDeviceIdChar c = true := by
  unfold checkDeviceId
  by_cases empty : id = ""
  · simp [empty]
  · cases found : id.toList.find? fun c => !isDeviceIdChar c with
    | none => simpa [empty] using found
    | some c =>
      have bad := List.find?_some found
      have inside := List.mem_of_find?_eq_some found
      simp only [String.isEmpty_iff, empty, if_false]
      refine ⟨nofun, fun ⟨_, all⟩ => ?_⟩
      simp [all c inside] at bad

end Topic

namespace Settings

variable {s : Settings}

theorem cause?_eq_none_iff {ε : Type} {check : Except ε Unit} : cause? check = none ↔ check = .ok () := by
  cases check <;> simp [cause?]

theorem when_eq_none_iff {bad : Bool} {v : Violation} : when bad v = none ↔ bad = false := by
  cases bad <;> simp [when]

theorem checks_of_validate (h : s.validate = .ok ()) : ∀ check ∈ s.checks, check = none := by
  cases found : s.violation? with
  | none => exact List.findSome?_eq_none_iff.1 found
  | some v => simp [validate, found] at h

theorem notMem_deviceId (h : s.validate = .ok ()) {c : Char} (bad : Topic.isDeviceIdChar c = false) :
    c ∉ s.device.id.toList := by
  intro inside
  have passed := checks_of_validate h ((cause? (Topic.checkDeviceId s.device.id)).map (.deviceId s.device.id))
    (by simp [checks])
  rw [Option.map_eq_none_iff, cause?_eq_none_iff, Topic.checkDeviceId_eq_ok_iff] at passed
  simp [passed.2 c inside] at bad

theorem notMem_topicRoot (h : s.validate = .ok ()) :
    '+' ∉ s.broker.topicRoot.toList ∧ '#' ∉ s.broker.topicRoot.toList := by
  have passed := checks_of_validate h
    (when (s.broker.topicRoot.isEmpty || hasWildcard s.broker.topicRoot) (.topicRoot s.broker.topicRoot))
    (by simp [checks])
  rw [when_eq_none_iff, Bool.or_eq_false_iff, hasWildcard, List.any_eq_false] at passed
  exact ⟨fun plus => by simpa using passed.2 _ plus, fun hash => by simpa using passed.2 _ hash⟩

theorem minFrameBytes_le (h : s.validate = .ok ()) : minFrameBytes ≤ s.relay.maxFrameBytes := by
  have passed := checks_of_validate h (when (s.relay.maxFrameBytes < minFrameBytes) .frameLimit) (by simp [checks])
  rw [when_eq_none_iff, decide_eq_false_iff_not] at passed
  exact Nat.le_of_not_lt passed

end Settings
end Telemetry
