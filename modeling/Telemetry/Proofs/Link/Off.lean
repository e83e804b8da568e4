import Telemetry.Proofs.Link.Sound

/-!
# A link that is off

A link that has been turned off stays off until it is turned on or restored from the store. Until then it
associates with nothing, and whoever watches it is told nothing, whatever the surroundings do.
-/

namespace Telemetry

/-- Neither a request to the hardware nor a notice of a status. -/
def Event.isIdle : Event → Bool
  | .associate .. | .openSession .. | .send .. | .linkNotice _ | .brokerNotice _ => false
  | _ => true

namespace Link

variable {ρ σ : Type}

/-- The operations that may turn the link on. -/
def Op.isStarter : Op → Bool
  | init | enable => true
  | _ => false

structure IsOff (l : Link ρ σ) : Prop where
  enabled : l.enabled = false
  status : l.status = .disabled

variable {l l' : Link ρ σ}

theorem become_of_status {s : Status} (h : l.status = s) : l.become s = l := by
  have shown : l.indicator.set s = (l.indicator, none) := if_pos h
  rw [become, shown]
  rfl

/-- On the way the link stayed off, and what happened is idle. -/
structure StaysOff (l l' : Link ρ σ) : Prop extends IsOff l' where
  idle : ∃ es, l'.trace = l.trace ++ es ∧ ∀ e ∈ es, e.isIdle = true

/-- What leaves the intent, the status and the trace alone. -/
theorem StaysOff.of_same (off : IsOff l) (enabled : l'.enabled = l.enabled) (indicator : l'.indicator = l.indicator)
    (trace : l'.trace = l.trace) : StaysOff l l' where
  enabled := enabled.trans off.enabled
  status := (congrArg Indicator.status indicator).trans off.status
  idle := ⟨[], by rw [trace, List.append_nil], nofun⟩

variable [Radio ρ] [Storage σ]

theorem radio_disable (l : Link ρ σ) : l.disable.radio = Radio.disconnect true l.radio := by
  dsimp only [disable, become, notify]
  split <;> rfl

theorem told_disable (l : Link ρ σ) : ∃ es, l.disable.trace = l.trace ++ .dissociate true :: es := by
  have moves := moves_become .disabled (({ l with enabled := false }.dissociate true).persist false)
  obtain ⟨es, shown, -⟩ := moves.told
  exact ⟨es, shown.trans (List.append_assoc l.trace [.dissociate true] es)⟩

theorem isOff_disable (l : Link ρ σ) : IsOff l.disable := ⟨(moves_disable l).enabled, status_disable l⟩

/-- Turned off again, a link that is off powers the radio down once more. -/
theorem staysOff_disable (off : IsOff l) : StaysOff l l.disable := by
  -- The status is shown already, so nobody is told.
  have same : l.disable = (({ l with enabled := false }.dissociate true).persist false) :=
    become_of_status off.status
  refine ⟨isOff_disable l, [.dissociate true], ?_, by decide⟩
  rw [same]
  rfl

omit [Radio ρ] in
theorem staysOff_setCredentials (off : IsOff l) (identity secret : String) :
    StaysOff l (l.setCredentials identity secret).2 := by
  obtain ⟨e, store, refused⟩ | ⟨c, store, -, adopted⟩ := setCredentials_cases identity secret l
  · rw [refused]
    exact .of_same off rfl rfl rfl
  · rw [adopted]
    exact .of_same off rfl rfl rfl

theorem staysOff_clearCredentials (off : IsOff l) : StaysOff l l.clearCredentials.2 := by
  have already : l.ensureOff = l := if_neg (by simp [off.enabled])
  obtain ⟨e, store, refused⟩ | ⟨store, cleared⟩ := clearCredentials_cases l
  · rw [refused, already]
    exact .of_same off rfl rfl rfl
  · rw [cleared, already]
    exact .of_same off rfl rfl rfl

theorem StaysOff.perform (off : IsOff l) {op : Op} (h : op.isStarter = false) :
    StaysOff l (op.perform l).2 := by
  cases op with
  | init | enable => cases h
  | disable => exact staysOff_disable off
  | tick =>
    rw [show (Op.tick.perform l).2 = l from tick_of_off off.enabled]
    exact .of_same off rfl rfl rfl
  | setCredentials identity secret => exact staysOff_setCredentials off identity secret
  | clearCredentials => exact staysOff_clearCredentials off

/-- Until a starter comes, each turn finds the link off and leaves it so. -/
theorem staysOff_turns (off : IsOff l) {steps : List (Step ρ σ)} (h : ∀ s ∈ steps, s.op.isStarter = false) :
    ∀ t ∈ turns steps l, StaysOff t.before t.after := by
  induction steps generalizing l with
  | nil => exact fun _ ht => absurd ht List.not_mem_nil
  | cons s steps ih =>
    obtain ⟨first, rest⟩ := List.forall_mem_cons.1 h
    have met : IsOff (l.meet s) := ⟨off.enabled, off.status⟩
    have stays := StaysOff.perform met first
    exact List.forall_mem_cons.2 ⟨stays, ih stays.toIsOff rest⟩

/-- The events of a turn on which the link stays off. -/
theorem StaysOff.events {t : Turn ρ σ} (h : StaysOff t.before t.after) : ∀ e ∈ t.events, e.isIdle = true := by
  obtain ⟨es, trace, idle⟩ := h.idle
  rw [Turn.events, trace, List.drop_left]
  exact idle

end Link
end Telemetry
