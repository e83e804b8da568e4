import Telemetry.Proofs.Broker.Sound
import Telemetry.Proofs.Link.Kept

/-!
# What the broker manager keeps in the store

On a store whose writes do not fail, every operation leaves in the store what the manager has: its endpoint,
if there is one, and its intent. The keys of the link manager are left alone.
-/

namespace Telemetry

namespace Endpoint

/-- An endpoint that was made from some values is made from its own. -/
theorem make_self {host : String} {port : UInt16} {username password : Option String} {e : Endpoint}
    (h : make host port username password = .ok e) :
    make e.host e.port e.username e.password = .ok e := by
  obtain ⟨given, short, port, user, pass, rfl⟩ := eq_of_make h
  simp [make, given, Nat.not_lt.2 short, port, user, pass]

end Endpoint

namespace Broker

open Storage

variable {β σ : Type} [Storage σ] {good : σ → Prop} {b b' : Broker β σ} {s : σ}

/-- The shelf of the broker manager. -/
def shelf : Shelf σ Endpoint where
  intent := Store.brokerEnabled
  names := Store.endpointKeys
  intent_not_mem := by decide
  read := stored?
  read_congr := by
    intro s s' agree
    unfold stored?
    rw [string?_congr (agree Store.brokerHost (by decide)),
      integer?_congr (agree Store.brokerPort (by decide)),
      string?_congr (agree Store.brokerUsername (by decide)),
      string?_congr (agree Store.brokerPassword (by decide))]

/-- The store holds what the manager has. -/
abbrev Kept (b : Broker β σ) : Prop := shelf.Holds b.endpoint b.enabled b.store

/-- The store is good and holds what the manager has. The keys of the link manager are as they were. -/
abbrev Lasting (good : σ → Prop) (before : σ) (b : Broker β σ) : Prop :=
  shelf.Keeps good Store.linkKeys before b.endpoint b.enabled b.store

/-- Of nothing, nothing is kept. -/
theorem kept_of_empty (empty : ∀ k, lookup k b.store = none) (endpoint : b.endpoint = none)
    (off : b.enabled = false) : Kept b := by
  refine ⟨?_, ?_⟩
  · simp [shelf, stored?, string?, empty, endpoint]
  · simp [bool?, empty, off]

/-- What leaves the store, the endpoint and the intent alone. -/
theorem lasting_of_same (h : Lasting good s b) (same : Same b b') (store : b'.store = b.store) :
    Lasting good s b' := by
  unfold Lasting
  rw [same.endpoint, same.enabled, store]
  exact h

/-- The intent is kept beside the endpoint. -/
theorem lasting_persist (reliable : Reliable good) (hg : good b.store)
    (h : stored? b.store = b.endpoint) (enabled : Bool) :
    Lasting good b.store ({ b with enabled }.persist enabled) :=
  Shelf.keeps_put (p := shelf) reliable hg h enabled (by decide : Store.brokerEnabled ∉ Store.linkKeys)

/-- The writes that keep an endpoint, or remove it. -/
def writes (e : Option Endpoint) : List (String × Option Store.Value) :=
  [ (Store.brokerHost, e.map fun e => .string e.host),
    (Store.brokerPort, e.map fun e => .integer (Int64.ofNat e.port.toNat)),
    (Store.brokerUsername, (e.bind (·.username)).map .string),
    (Store.brokerPassword, (e.bind (·.password)).map .string) ]

theorem string?_of_lookup {k : String} {v : Option String} (h : lookup k s = v.map .string) :
    string? k s = v := by
  unfold string?
  rw [h]
  cases v <;> rfl

/-- A port fits into the number that is kept for it. -/
theorem port_of_integer (port : UInt16) :
    0 ≤ (Int64.ofNat port.toNat).toInt ∧ (Int64.ofNat port.toNat).toInt < 65536 ∧
      UInt16.ofNat (Int64.ofNat port.toNat).toInt.toNat = port := by
  have small := port.toNat_lt
  have kept : (Int64.ofNat port.toNat).toInt = port.toNat := Int64.toInt_ofNat_of_lt (by omega)
  rw [kept]
  exact ⟨by omega, by omega, by simp⟩

theorem stored?_of_wrote {e : Option Endpoint} {r : Except Store.Error Unit × σ}
    (wrote : Wrote good (writes e) s r)
    (valid : ∀ d ∈ e, Endpoint.make d.host d.port d.username d.password = .ok d) : stored? r.2 = e := by
  have host : lookup Store.brokerHost r.2 = e.map fun e => .string e.host := by
    rw [wrote.lookup]
    rfl
  have port : lookup Store.brokerPort r.2 = e.map fun e => .integer (Int64.ofNat e.port.toNat) := by
    rw [wrote.lookup]
    rfl
  have username : string? Store.brokerUsername r.2 = e.bind (·.username) := by
    apply string?_of_lookup
    rw [wrote.lookup]
    rfl
  have password : string? Store.brokerPassword r.2 = e.bind (·.password) := by
    apply string?_of_lookup
    rw [wrote.lookup]
    rfl
  cases e with
  | none => simp [stored?, string?, host]
  | some e =>
    obtain ⟨nonneg, small, same⟩ := port_of_integer e.port
    have readHost : string? Store.brokerHost r.2 = some e.host := by simp [string?, host]
    have readPort : integer? Store.brokerPort r.2 = some (Int64.ofNat e.port.toNat) := by
      simp [integer?, port]
    rw [stored?, readHost, readPort, username, password]
    dsimp only [Option.bind_some]
    rw [if_pos ⟨nonneg, small⟩, same, valid e rfl]
    rfl

theorem lasting_setEndpoint (reliable : Reliable good) (hg : good b.store) (h : Kept b) (host : String)
    (port : UInt16) (username password : Option String) :
    Lasting good b.store (b.setEndpoint host port username password).2 := by
  cases made : Endpoint.make host port username password with
  | error e =>
    rw [setEndpoint, made]
    exact h.keeps hg
  | ok e =>
    have wrote := reliable.wrote_putAll hg (writes (some e))
    have adopted : (b.setEndpoint host port username password).2 =
        { b with store := (putAll (writes (some e)) b.store).2, endpoint := some e } := by
      rw [setEndpoint, made]
      dsimp only
      split
      · next failed => cases wrote.done.symm.trans failed
      · rfl
    have valid : ∀ d ∈ some e, Endpoint.make d.host d.port d.username d.password = .ok d := by
      rintro d ⟨⟩
      exact Endpoint.make_self made
    rw [adopted]
    exact Shelf.Keeps.adopt (h.keeps hg) wrote rfl (by decide : ∀ k ∈ Store.endpointKeys, _)
      (stored?_of_wrote wrote valid)

section Client

variable [Client β]

theorem lasting_enable (reliable : Reliable good) (hg : good b.store) (h : Kept b) (linkUp : Bool) :
    Lasting good b.store (b.enable linkUp) := by
  cases enables_enable linkUp b with
  | busy busy same =>
    rw [same]
    exact h.keeps hg
  | refuses missing quiet same store status => exact lasting_of_same (h.keeps hg) same store
  | starts found quiet same store shown =>
    exact lasting_of_same (lasting_persist reliable hg h.setUp true) same store

theorem lasting_disable (reliable : Reliable good) (hg : good b.store) (h : Kept b) :
    Lasting good b.store b.disable :=
  have off := disables_disable b
  lasting_of_same (lasting_persist reliable hg h.setUp false) off.same off.store

/-- Nothing is left of the endpoint, neither in the manager nor in the store. -/
theorem lasting_clearEndpoint (reliable : Reliable good) (hg : good b.store) (h : Kept b) :
    Lasting good b.store b.clearEndpoint.2 ∧ b.clearEndpoint.2.endpoint = none ∧
      b.clearEndpoint.2.enabled = false := by
  have off : Lasting good b.store b.ensureOff := by
    unfold ensureOff
    split
    · exact lasting_disable reliable hg h
    · exact h.keeps hg
  have wrote := reliable.wrote_putEach off.good (writes none)
  have cleared : b.clearEndpoint.2 =
      { b.ensureOff with store := (putEach (writes none) b.ensureOff.store).2, endpoint := none } := by
    rw [clearEndpoint]
    dsimp only
    split
    · next failed => cases wrote.done.symm.trans failed
    · rfl
  rw [cleared]
  have lasting := Shelf.Keeps.adopt off wrote rfl (by decide : ∀ k ∈ Store.endpointKeys, _)
    (stored?_of_wrote wrote (by simp))
  exact ⟨lasting, rfl, enabled_ensureOff b⟩

theorem lasting_perform (reliable : Reliable good) (hg : good b.store) (h : Kept b) (op : Op) :
    Lasting good b.store (op.perform b).2 := by
  have stays : Lasting good b.store b := h.keeps hg
  cases op with
  | init linkUp =>
    show Lasting good b.store (b.init linkUp)
    unfold init
    split
    · exact lasting_enable reliable hg h linkUp
    · exact stays
  | enable linkUp => exact lasting_enable reliable hg h linkUp
  | disable => exact lasting_disable reliable hg h
  | tick linkUp => exact lasting_of_same stays (same_tick linkUp b) (keeps_tick linkUp b : Keeps 0 _ _).store
  | publish id topic payload =>
    exact lasting_of_same stays (outward_publish id topic payload b).same (outward_publish id topic payload b).store
  | publishRecord record =>
    exact lasting_of_same stays (outward_publishRecord record b).same (outward_publishRecord record b).store
  | setEndpoint host port username password =>
    exact lasting_setEndpoint reliable hg h host port username password
  | clearEndpoint => exact (lasting_clearEndpoint reliable hg h).1
  | testConnection =>
    exact lasting_of_same stays (outward_testConnection b).same (outward_testConnection b).store

/-- At the start the manager takes up what the store holds, if nothing is said to be on that is not set up. -/
theorem lasting_start (reliable : Reliable good) (board : Board σ) (hg : good board.store)
    (setUp : bool? Store.brokerEnabled board.store = some true → (stored? board.store).isSome = true)
    (settings : Settings.Broker) (deviceId : String) (watched : Bool) (client : β) (linkUp : Bool) :
    let b := (load settings deviceId watched client board).init linkUp
    Lasting good board.store b ∧ b.endpoint = stored? board.store ∧
      (b.enabled = true ↔ bool? Store.brokerEnabled board.store = some true) := by
  intro b
  let loaded := load settings deviceId watched client board
  by_cases on : bool? Store.brokerEnabled board.store = some true
  · have found := setUp on
    have turnedOn : b = loaded.enable linkUp := if_pos ⟨on, found⟩
    rw [turnedOn]
    cases enables_enable linkUp loaded with
    | busy busy same => cases busy
    | refuses missing quiet same store status =>
      rw [show stored? board.store = none from missing] at found
      cases found
    | starts _ quiet same store shown =>
      have lasting := lasting_of_same (lasting_persist reliable (b := loaded) hg rfl true) same store
      have enabled : (loaded.enable linkUp).enabled = true := same.enabled
      exact ⟨lasting, same.endpoint, by simp [on, enabled]⟩
  · have same : b = loaded := if_neg fun h => on h.1
    have intent : bool? Store.brokerEnabled loaded.store = some true ↔ loaded.enabled = true :=
      ⟨fun h => absurd h on, fun h => by cases h⟩
    rw [same]
    exact ⟨Shelf.Holds.keeps ⟨rfl, intent⟩ hg, rfl, intent.symm⟩

end Client

end Broker
end Telemetry
