import Telemetry.Proofs.Link.Sound
import Telemetry.Proofs.Store

/-!
# What the link manager keeps in the store

On a store whose writes do not fail, every operation leaves in the store what the manager has: its
credentials, if there are any, and its intent. The keys of the broker manager are left alone.
-/

namespace Telemetry

namespace Store

def credentialKeys : List String := [linkIdentity, linkSecret]

def endpointKeys : List String := [brokerHost, brokerPort, brokerUsername, brokerPassword]

/-- The keys that the link manager writes: that of the intent and those of the credentials. -/
def linkKeys : List String := linkEnabled :: credentialKeys

/-- The keys that the broker manager writes: that of the intent and those of the endpoint. -/
def brokerKeys : List String := brokerEnabled :: endpointKeys

end Store

namespace Link

open Storage

variable {ρ σ : Type} [Storage σ] {good : σ → Prop} {l l' : Link ρ σ} {s : σ}

/-- The shelf of the link manager. -/
def shelf : Shelf σ Credentials where
  intent := Store.linkEnabled
  names := Store.credentialKeys
  intent_not_mem := by decide
  read := stored?
  read_congr := by
    intro s s' agree
    unfold stored?
    rw [string?_congr (agree Store.linkIdentity (by decide)),
      string?_congr (agree Store.linkSecret (by decide))]

/-- The store holds what the manager has. -/
abbrev Kept (l : Link ρ σ) : Prop := shelf.Holds l.credentials l.enabled l.store

/-- The store is good and holds what the manager has. The keys of the broker manager are as they were. -/
abbrev Lasting (good : σ → Prop) (before : σ) (l : Link ρ σ) : Prop :=
  shelf.Keeps good Store.brokerKeys before l.credentials l.enabled l.store

/-- Of nothing, nothing is kept. -/
theorem kept_of_empty (empty : ∀ k, lookup k l.store = none) (credentials : l.credentials = none)
    (off : l.enabled = false) : Kept l := by
  refine ⟨?_, ?_⟩
  · simp [shelf, stored?, string?, empty, credentials]
  · simp [bool?, empty, off]

/-- What leaves the store, the credentials and the intent alone. -/
theorem lasting_of_moves {starts : List Bool} {b : Backoff} (h : Lasting good s l)
    (moves : Moves l starts b l') : Lasting good s l' := by
  unfold Lasting
  rw [moves.credentials, moves.enabled, moves.store]
  exact h

/-- The intent is kept beside the credentials. -/
theorem lasting_persist (reliable : Reliable good) (hg : good l.store)
    (h : stored? l.store = l.credentials) (enabled : Bool) :
    Lasting good l.store ({ l with enabled }.persist enabled) :=
  Shelf.keeps_put (p := shelf) reliable hg h enabled (by decide : Store.linkEnabled ∉ Store.brokerKeys)

/-- The writes that keep credentials, or remove them. -/
def writes (c : Option Credentials) : List (String × Option Store.Value) :=
  [ (Store.linkIdentity, c.map fun c => .string c.identity),
    (Store.linkSecret, c.map fun c => .string c.secret) ]

theorem stored?_of_wrote {c : Option Credentials} {r : Except Store.Error Unit × σ}
    (wrote : Wrote good (writes c) s r)
    (valid : ∀ d ∈ c, Credentials.make d.identity d.secret = .ok d) : stored? r.2 = c := by
  have identity : lookup Store.linkIdentity r.2 = c.map fun c => .string c.identity := by
    rw [wrote.lookup]
    rfl
  have secret : lookup Store.linkSecret r.2 = c.map fun c => .string c.secret := by
    rw [wrote.lookup]
    rfl
  cases c with
  | none => simp [stored?, string?, identity]
  | some c => simp [stored?, string?, identity, secret, valid c rfl, Except.toOption]

theorem lasting_setCredentials (reliable : Reliable good) (hg : good l.store) (h : Kept l)
    (identity secret : String) : Lasting good l.store (l.setCredentials identity secret).2 := by
  cases made : Credentials.make identity secret with
  | error e =>
    rw [setCredentials, made]
    exact h.keeps hg
  | ok c =>
    have wrote := reliable.wrote_putAll hg (writes (some c))
    have adopted : (l.setCredentials identity secret).2 =
        { l with store := (putAll (writes (some c)) l.store).2, credentials := some c }.resetBackoff := by
      rw [setCredentials, made]
      dsimp only
      split
      · next failed => cases wrote.done.symm.trans failed
      · rfl
    have valid : ∀ d ∈ some c, Credentials.make d.identity d.secret = .ok d := by
      rintro d ⟨⟩
      obtain ⟨-, -, rfl⟩ := Credentials.eq_of_make made
      exact made
    rw [adopted]
    exact Shelf.Keeps.adopt (h.keeps hg) wrote rfl (by decide : ∀ k ∈ Store.credentialKeys, _)
      (stored?_of_wrote wrote valid)

section Radio

variable [Radio ρ]

theorem lasting_enable (reliable : Reliable good) (hg : good l.store) (h : Kept l) :
    Lasting good l.store l.enable := by
  cases enables_enable l with
  | busy busy same =>
    rw [same]
    exact h.keeps hg
  | refuses idle missing moves status => exact lasting_of_moves (h.keeps hg) moves
  | starts idle found answer moves status =>
    exact lasting_of_moves (lasting_persist reliable hg h.setUp true) moves

theorem lasting_disable (reliable : Reliable good) (hg : good l.store) (h : Kept l) :
    Lasting good l.store l.disable :=
  lasting_of_moves (lasting_persist reliable hg h.setUp false) (moves_disable l)

theorem lasting_tick (sound : Sound l) (hg : good l.store) (h : Kept l) :
    Lasting good l.store l.tick := by
  cases on : l.enabled with
  | false =>
    rw [tick_of_off on]
    exact h.keeps hg
  | true =>
    obtain ⟨starts, b, moves⟩ := (sound.ticks on).exists_moves
    exact lasting_of_moves (l := l.look) (h.keeps hg) moves

/-- Nothing is left of the credentials, neither in the manager nor in the store. -/
theorem lasting_clearCredentials (reliable : Reliable good) (hg : good l.store) (h : Kept l) :
    Lasting good l.store l.clearCredentials.2 ∧ l.clearCredentials.2.credentials = none ∧
      l.clearCredentials.2.enabled = false := by
  have off : Lasting good l.store l.ensureOff := by
    unfold ensureOff
    split
    · exact lasting_disable reliable hg h
    · exact h.keeps hg
  have wrote := reliable.wrote_putEach off.good (writes none)
  have cleared : l.clearCredentials.2 =
      { l.ensureOff with store := (putEach (writes none) l.ensureOff.store).2, credentials := none } := by
    rw [clearCredentials]
    dsimp only
    split
    · next failed => cases wrote.done.symm.trans failed
    · rfl
  rw [cleared]
  have lasting := Shelf.Keeps.adopt off wrote rfl (by decide : ∀ k ∈ Store.credentialKeys, _)
    (stored?_of_wrote wrote (by simp))
  exact ⟨lasting, rfl, enabled_ensureOff l⟩

theorem lasting_perform (reliable : Reliable good) (sound : Sound l) (hg : good l.store) (h : Kept l)
    (op : Op) : Lasting good l.store (op.perform l).2 := by
  cases op with
  | init =>
    show Lasting good l.store l.init
    unfold init
    split
    · exact lasting_enable reliable hg h
    · exact h.keeps hg
  | enable => exact lasting_enable reliable hg h
  | disable => exact lasting_disable reliable hg h
  | tick => exact lasting_tick sound hg h
  | setCredentials identity secret => exact lasting_setCredentials reliable hg h identity secret
  | clearCredentials => exact (lasting_clearCredentials reliable hg h).1

/-- At the start the manager takes up what the store holds, if nothing is said to be on that is not set up. -/
theorem lasting_start (reliable : Reliable good) (board : Board σ) (hg : good board.store)
    (setUp : bool? Store.linkEnabled board.store = some true → (stored? board.store).isSome = true)
    (settings : Settings.Link) (watched : Bool) (radio : ρ) :
    let l := (load settings watched radio board).init
    Lasting good board.store l ∧ l.credentials = stored? board.store ∧
      (l.enabled = true ↔ bool? Store.linkEnabled board.store = some true) := by
  intro l
  let loaded := load settings watched radio board
  by_cases on : bool? Store.linkEnabled board.store = some true
  · have found := setUp on
    have turnedOn : l = loaded.enable := if_pos ⟨on, found⟩
    rw [turnedOn]
    cases enables_enable loaded with
    | busy busy same => cases busy
    | refuses idle missing moves status =>
      rw [show stored? board.store = none from missing] at found
      cases found
    | starts idle _ answer moves status =>
      have lasting := lasting_of_moves (lasting_persist reliable (l := loaded) hg rfl true) moves
      have enabled : loaded.enable.enabled = true := moves.enabled
      exact ⟨lasting, moves.credentials, by simp [on, enabled]⟩
  · have same : l = loaded := if_neg fun h => on h.1
    have intent : bool? Store.linkEnabled loaded.store = some true ↔ loaded.enabled = true :=
      ⟨fun h => absurd h on, fun h => by cases h⟩
    rw [same]
    exact ⟨Shelf.Holds.keeps ⟨rfl, intent⟩ hg, rfl, intent.symm⟩

end Radio

end Link
end Telemetry
