import Telemetry.Proofs.Broker.Outward

/-!
# What every run of the broker manager keeps

The settings and the topics are those from the start, and a session is requested or stands only while the
manager is turned on.
-/

namespace Telemetry.Broker

open Transport

variable {β σ : Type}

/-- The way from `b` to `b'` leaves the set-up of the manager alone. -/
structure Same (b b' : Broker β σ) : Prop where
  settings : b'.settings = b.settings
  topics : b'.topics = b.topics
  endpoint : b'.endpoint = b.endpoint
  enabled : b'.enabled = b.enabled

variable {b b' b'' : Broker β σ}

theorem Same.refl (b : Broker β σ) : Same b b := ⟨rfl, rfl, rfl, rfl⟩

theorem Same.trans (h : Same b b') (h' : Same b' b'') : Same b b'' :=
  ⟨h'.settings.trans h.settings, h'.topics.trans h.topics, h'.endpoint.trans h.endpoint,
    h'.enabled.trans h.enabled⟩

/-! ## The parts of an operation -/

theorem Outward.same (h : Outward b b') : Same b b' :=
  ⟨h.eq (·.settings), h.eq (·.topics), h.eq (·.endpoint), h.enabled⟩

theorem same_notify (notice : Option Status) (b : Broker β σ) : Same b (b.notify notice) := by
  cases notice <;> exact ⟨rfl, rfl, rfl, rfl⟩

theorem same_become (s : Status) (b : Broker β σ) : Same b (b.become s) := by
  have set : Same b { b with indicator := (b.indicator.set s).1 } := ⟨rfl, rfl, rfl, rfl⟩
  exact set.trans (same_notify _ _)

theorem indicator_notify (notice : Option Status) (b : Broker β σ) :
    (b.notify notice).indicator = b.indicator := by
  cases notice <;> rfl

@[simp] theorem status_become (s : Status) (b : Broker β σ) : (b.become s).status = s := by
  unfold become status
  rw [indicator_notify]
  exact Indicator.status_set s b.indicator

@[simp] theorem status_endTick (b : Broker β σ) : b.endTick.status = b.status := by
  unfold endTick status
  rw [indicator_notify]
  exact Indicator.status_endTick b.indicator

theorem same_endTick (b : Broker β σ) : Same b b.endTick := by
  have set : Same b { b with indicator := b.indicator.endTick.1 } := ⟨rfl, rfl, rfl, rfl⟩
  exact set.trans (same_notify _ _)

section Client

variable [Client β]

theorem same_openSession (e : Endpoint) (b : Broker β σ) : Same b (b.openSession e) := by
  have requested : Same b (b.request e) := ⟨rfl, rfl, rfl, rfl⟩
  exact requested.trans (same_become _ _)

theorem same_connect (b : Broker β σ) : Same b b.connect := by
  unfold connect
  split
  · exact same_openSession _ _
  · exact same_become _ _

theorem same_reconnectIfDue (b : Broker β σ) : Same b b.reconnectIfDue := by
  unfold reconnectIfDue
  split
  · next backoff _ =>
    have polled : Same b { b with backoff } := ⟨rfl, rfl, rfl, rfl⟩
    exact polled.trans (same_connect _)
  · exact .refl b

theorem same_park (b : Broker β σ) : Same b b.park := by
  have closed : Same b (if b.status.isActive then b.closeSession else b) := by
    split <;> exact ⟨rfl, rfl, rfl, rfl⟩
  have reset : ∀ c : Broker β σ, Same c c.resetBackoff := fun _ => ⟨rfl, rfl, rfl, rfl⟩
  exact closed.trans ((same_become _ _).trans (reset _))

theorem same_advance (b : Broker β σ) : Same b b.advance := by
  have reset : ∀ c : Broker β σ, Same c c.resetBackoff := fun _ => ⟨rfl, rfl, rfl, rfl⟩
  have closed : Same b b.closeSession := ⟨rfl, rfl, rfl, rfl⟩
  unfold advance
  split
  · split
    · have connected := (same_become .connected b).trans (reset _)
      exact connected.trans ((outward_send _ _).trans (outward_drain _)).same
    · split
      · exact closed.trans ((same_become _ _).trans (same_reconnectIfDue _))
      · exact .refl b
  · split
    · exact (outward_drain b).same
    · exact ((same_become _ b).trans (reset _)).trans (same_reconnectIfDue _)
  · exact same_reconnectIfDue b
  · exact same_reconnectIfDue b
  · exact .refl b

theorem same_tick (linkUp : Bool) (b : Broker β σ) : Same b (b.tick linkUp) := by
  have begun : Same b b.beginTick := ⟨rfl, rfl, rfl, rfl⟩
  have looked : Same b.beginTick b.beginTick.look := ⟨rfl, rfl, rfl, rfl⟩
  unfold tick
  split
  · refine begun.trans (Same.trans ?_ (same_endTick _))
    split
    · exact looked.trans (same_advance _)
    · exact same_park _
  · exact .refl b

end Client

/-! ## Operations -/

/-- What holds of a manager that was set up with these settings. -/
structure Standing (settings : Settings.Broker) (topics : Topics) (b : Broker β σ) : Prop where
  settings : b.settings = settings
  topics : b.topics = topics
  /-- A session is requested or stands only while the manager is on. -/
  active : b.status.isActive = true → b.enabled = true

variable {settings : Settings.Broker} {topics : Topics}

theorem Standing.of_same (h : Standing settings topics b) (same : Same b b')
    (active : b'.status.isActive = true → b.enabled = true) : Standing settings topics b' :=
  ⟨same.settings.trans h.settings, same.topics.trans h.topics,
    fun ha => same.enabled.trans (active ha)⟩

theorem Standing.setEndpoint [Storage σ] (h : Standing settings topics b) (host : String) (port : UInt16)
    (username password : Option String) :
    Standing settings topics (b.setEndpoint host port username password).2 := by
  obtain ⟨e, store, refused⟩ | ⟨e, store, -, adopted⟩ := setEndpoint_cases host port username password b
  · rw [refused]
    exact ⟨h.settings, h.topics, h.active⟩
  · rw [adopted]
    exact ⟨h.settings, h.topics, h.active⟩

theorem standing_load [Storage σ] (settings : Settings.Broker) (deviceId : String) (watched : Bool)
    (client : β) (board : Board σ) :
    Standing settings ⟨settings.topicRoot, deviceId⟩ (load settings deviceId watched client board) :=
  ⟨rfl, rfl, by simp [load, status, Status.isActive]⟩

variable [Client β]

theorem Standing.tick (h : Standing settings topics b) (linkUp : Bool) :
    Standing settings topics (b.tick linkUp) := by
  by_cases on : b.enabled = true
  · exact h.of_same (same_tick linkUp b) fun _ => on
  · rw [Broker.tick, if_neg on]
    exact h

/-- A tick that is told that the link is down leaves no session requested or standing. -/
theorem Standing.linkUp_of_isActive_tick (h : Standing settings topics b) {linkUp : Bool}
    (active : (b.tick linkUp).status.isActive = true) : linkUp = true := by
  unfold Broker.tick at active
  split at active
  · cases linkUp with
    | true => rfl
    | false =>
      have parked : b.beginTick.park.status = .error := status_become .error _
      simp [parked, Status.isActive] at active
  · next off => exact absurd (h.active active) off

variable [Storage σ]

theorem Standing.enable (h : Standing settings topics b) (linkUp : Bool) :
    Standing settings topics (b.enable linkUp) := by
  unfold Broker.enable
  split
  · exact h
  · split
    · exact h.of_same (same_become .error b) (by simp [Status.isActive])
    · let on : Broker β σ := ({ b with enabled := true }.persist true).resetBackoff
      have turned : Standing settings topics on := ⟨h.settings, h.topics, fun _ => rfl⟩
      dsimp only
      split
      · exact turned.of_same (same_connect on) fun _ => rfl
      · exact turned.of_same (same_become .error on) fun _ => rfl

theorem Standing.disable (h : Standing settings topics b) : Standing settings topics b.disable := by
  let off : Broker β σ := { b with enabled := false }.closeSession
  let kept : Broker β σ := off.discard.persist false
  have discarded : Same off kept := (outward_discard off).same.trans ⟨rfl, rfl, rfl, rfl⟩
  have same : Same off b.disable := discarded.trans (same_become .disabled kept)
  refine ⟨same.settings.trans h.settings, same.topics.trans h.topics, ?_⟩
  simp [Broker.disable, Status.isActive]

theorem Standing.init (h : Standing settings topics b) (linkUp : Bool) :
    Standing settings topics (b.init linkUp) := by
  unfold Broker.init
  split
  · exact h.enable linkUp
  · exact h

theorem Standing.clearEndpoint (h : Standing settings topics b) :
    Standing settings topics b.clearEndpoint.2 := by
  have off : Standing settings topics (if b.enabled then b.disable else b) := by
    split
    · exact h.disable
    · exact h
  unfold Broker.clearEndpoint
  dsimp only
  split <;> exact ⟨off.settings, off.topics, off.active⟩

theorem Standing.perform (h : Standing settings topics b) (op : Op) :
    Standing settings topics (op.perform b).2 := by
  have quiet : ∀ {c : Broker β σ}, Outward b c → Standing settings topics c := by
    intro c outward
    exact h.of_same outward.same fun active => h.active (outward.status ▸ active)
  cases op with
  | init linkUp => exact h.init linkUp
  | enable linkUp => exact h.enable linkUp
  | disable => exact h.disable
  | tick linkUp => exact h.tick linkUp
  | publish id topic payload => exact quiet (outward_publish id topic payload b)
  | publishRecord record => exact quiet (outward_publishRecord record b)
  | setEndpoint host port username password => exact h.setEndpoint host port username password
  | clearEndpoint => exact h.clearEndpoint
  | testConnection => exact quiet (outward_testConnection b)

theorem Standing.run (h : Standing settings topics b) (steps : List (Step β σ)) :
    Standing settings topics (run steps b) := by
  induction steps generalizing b with
  | nil => exact h
  | cons s steps ih =>
    have met : Standing settings topics (b.meet s) := ⟨h.settings, h.topics, h.active⟩
    exact ih (met.perform s.op)

end Telemetry.Broker
