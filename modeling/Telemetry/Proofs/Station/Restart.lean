import Telemetry.Proofs.Broker.Kept
import Telemetry.Proofs.Station.Sound

/-!
# Restarting a station

On a store whose writes do not fail, the store holds at every moment what both managers have. So a station
that is started on it anew has the credentials and the endpoint of the old one, and is turned on where the
old one was.
-/

namespace Telemetry.Station

open Storage

variable {ρ β σ : Type} [Storage σ]

/-- A sound station whose store is good and holds what its managers have. -/
structure Kept (good : σ → Prop) (s : Station ρ β σ) : Prop where
  good : good s.store
  link : s.link.Kept
  broker : s.broker.Kept
  sound : Sound s

/-- No manager is said to be on that is not set up. -/
structure SetUp (s : σ) : Prop where
  link : bool? Store.linkEnabled s = some true → (Link.stored? s).isSome = true
  broker : bool? Store.brokerEnabled s = some true → (Broker.stored? s).isSome = true

/-- Two stations are set up alike. -/
structure SameSetUp (s s' : Station ρ β σ) : Prop where
  credentials : s'.link.credentials = s.link.credentials
  endpoint : s'.broker.endpoint = s.broker.endpoint
  linkEnabled : s'.link.enabled = s.link.enabled
  brokerEnabled : s'.broker.enabled = s.broker.enabled

variable {good : σ → Prop} {s s' : Station ρ β σ}

theorem setUp_of_empty {s : σ} (empty : ∀ k, lookup k s = none) : SetUp s := by
  constructor <;> simp [bool?, empty]

theorem Kept.setUp (h : Kept good s) : SetUp s.store := by
  refine ⟨fun on => ?_, fun on => ?_⟩
  · have found := (h.sound.link.on (h.link.intent.1 on)).1
    rwa [← h.link.setUp] at found
  · have found := (h.sound.broker.on (h.broker.intent.1 on)).1
    rwa [← h.broker.setUp] at found

section Operations

variable [Radio ρ] [Client β]

theorem Kept.operated (reliable : Reliable good) (h : Kept good s) (operated : Operated s s') :
    Kept good s' := by
  have sound := h.sound.operated operated
  induction operated with
  | refl => exact h
  | link before op ih =>
    have kept := ih (h.sound.operated before)
    have lasting := Link.lasting_perform reliable kept.sound.link kept.good kept.link op
    exact ⟨lasting.good, lasting.toHolds, kept.broker.of_agreeOn lasting.spares, sound⟩
  | broker before op ih =>
    have kept := ih (h.sound.operated before)
    have lasting := Broker.lasting_perform reliable kept.good kept.broker op
    exact ⟨lasting.good, kept.link.of_agreeOn lasting.spares, lasting.toHolds, sound⟩
  | surround before radio client journal ih =>
    obtain ⟨good, link, broker, -⟩ := ih (h.sound.operated before)
    exact ⟨good, ⟨link.setUp, link.intent⟩, ⟨broker.setUp, broker.intent⟩, sound⟩

/-- A station that is started takes up what the store holds. -/
theorem kept_start (reliable : Reliable good) (board : Board σ) (hg : good board.store)
    (setUp : SetUp board.store) (settings : Settings) (watched : Bool) (radio : ρ) (client : β) :
    let s := start settings watched radio client board
    Kept good s ∧ s.link.credentials = Link.stored? board.store ∧
      s.broker.endpoint = Broker.stored? board.store ∧
      (s.link.enabled = true ↔ bool? Store.linkEnabled board.store = some true) ∧
      (s.broker.enabled = true ↔ bool? Store.brokerEnabled board.store = some true) := by
  intro s
  let link := (Link.load settings.link watched radio board).init
  let loaded := Broker.load settings.broker settings.device.id watched client link.toBoard
  obtain ⟨linkLasts, credentials, linkOn⟩ :=
    Link.lasting_start reliable board hg setUp.link settings.link watched radio
  -- The link manager has not touched what the broker manager reads.
  have stored : Broker.stored? link.store = Broker.stored? board.store :=
    Broker.shelf.read_congr fun k hk => linkLasts.spares k (List.mem_cons_of_mem _ hk)
  have intent : bool? Store.brokerEnabled link.store = bool? Store.brokerEnabled board.store :=
    bool?_congr (linkLasts.spares _ List.mem_cons_self)
  have found :
      bool? Store.brokerEnabled link.store = some true → (Broker.stored? link.store).isSome = true := by
    rw [stored, intent]
    exact setUp.broker
  obtain ⟨brokerLasts, endpoint, brokerOn⟩ := Broker.lasting_start reliable link.toBoard linkLasts.good
    found settings.broker settings.device.id watched client link.isConnected
  have sound : Sound s := sound_start settings watched radio client board
  refine ⟨⟨brokerLasts.good, ?_, brokerLasts.toHolds, sound⟩, credentials, endpoint.trans stored, linkOn, ?_⟩
  · exact linkLasts.of_agreeOn brokerLasts.spares
  · rw [← intent]
    exact brokerOn

theorem Kept.restart (reliable : Reliable good) (h : Kept good s) (settings : Settings) (watched : Bool)
    (radio : ρ) (client : β) (journal : Journal) :
    SameSetUp s (start settings watched radio client { journal with store := s.store }) := by
  obtain ⟨-, credentials, endpoint, linkOn, brokerOn⟩ := kept_start reliable
    { journal with store := s.store } h.good h.setUp settings watched radio client
  refine ⟨credentials.trans h.link.setUp, endpoint.trans h.broker.setUp, ?_, ?_⟩
  · exact Bool.eq_iff_iff.2 (linkOn.trans h.link.intent)
  · exact Bool.eq_iff_iff.2 (brokerOn.trans h.broker.intent)

end Operations

end Telemetry.Station
