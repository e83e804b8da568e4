import Telemetry.Proofs.Broker.Sound
import Telemetry.Proofs.Link.Sound
import Telemetry.Proofs.Station.Run

/-!
# The managers are sound

The invariants of both managers hold in every run. A run begins with a manager that is loaded from some board,
and what lies between two of its operations is left open: the hardware, the clock and the store may have
become anything. So the invariants do not depend on what others do to the store, on writes that fail, or on what
the hardware answers.
-/

namespace Telemetry

variable {ρ β σ : Type}

/-- Both managers of a station are sound. -/
structure Station.Sound (s : Station ρ β σ) : Prop where
  link : s.link.Sound
  broker : s.broker.Sound

variable [Radio ρ] [Client β] [Storage σ]

theorem Station.Sound.operated {s s' : Station ρ β σ} (h : Sound s) (operated : Operated s s') :
    Sound s' := by
  induction operated with
  | refl => exact h
  | link _ op ih =>
    have broker := ih.broker
    exact ⟨ih.link.perform op, ⟨broker.on, broker.off, broker.valid, broker.fits⟩⟩
  | broker _ op ih =>
    have link := ih.link
    exact ⟨⟨link.on, link.off, link.valid⟩, ih.broker.perform op⟩
  | surround _ radio client journal ih =>
    obtain ⟨link, broker⟩ := ih
    exact ⟨⟨link.on, link.off, link.valid⟩, ⟨broker.on, broker.off, broker.valid, broker.fits⟩⟩

theorem Station.sound_start (settings : Settings) (watched : Bool) (radio : ρ) (client : β) (board : Board σ) :
    Sound (start settings watched radio client board) := by
  let link := (Link.load settings.link watched radio board).init
  have linkSound := (Link.sound_load settings.link watched radio board).init
  have brokerSound :=
    (Broker.sound_load settings.broker settings.device.id watched client link.toBoard).init link.isConnected
  exact ⟨⟨linkSound.on, linkSound.off, linkSound.valid⟩, brokerSound⟩

theorem managers_sound (settings : Settings) (watched : Bool) (radio : ρ) (client : β)
    (board board' : Board σ) (steps : List (Link.Step ρ σ)) (steps' : List (Broker.Step β σ)) :
    (Link.run steps (Link.load settings.link watched radio board)).Sound ∧
      let b := Broker.run steps' (Broker.load settings.broker settings.device.id watched client board')
      b.Sound ∧ b.settings = settings.broker := by
  refine ⟨(Link.sound_load settings.link watched radio board).run steps, ?_, ?_⟩
  · exact (Broker.sound_load settings.broker settings.device.id watched client board').run steps'
  · exact ((Broker.standing_load settings.broker settings.device.id watched client board').run steps').settings

end Telemetry
