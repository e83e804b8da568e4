import Telemetry.Bench.Equipment
import Telemetry.Proofs.Broker.Worn
import Telemetry.Proofs.Link.Worn
import Telemetry.Proofs.Provisioning.Grammar

/-!
# Provisioning writes take effect as a whole

A write that is well spelled and within the limits of its fields is adopted, unless the store fails at one of its
keys. It then stands in the memory of the manager and in the store, and nothing else has changed. A write that
is refused, for whatever reason, leaves the station and the contents of its store as they were. Neither calls on
the hardware or tells anyone: the trace stays as it is.
-/

namespace Telemetry

open Storage

namespace Provisioning

/-- The bytes spell the credentials, and the fields are within their limits. -/
structure CredentialsWrite.IsAccepted (w : CredentialsWrite) (raw : List UInt8) : Prop where
  spelled : ∃ text, IsText raw text ∧ w.IsSpelled text
  identity : w.identity.utf8ByteSize ≤ 32
  secret : w.secret.utf8ByteSize ≤ 64

/-- The bytes spell the endpoint, and the fields are within their limits. -/
structure EndpointWrite.IsAccepted (w : EndpointWrite) (raw : List UInt8) : Prop where
  spelled : ∃ text, IsText raw text ∧ w.IsSpelled text
  host : w.host.utf8ByteSize ≤ 128
  username : ∀ s ∈ w.username, s.utf8ByteSize ≤ 64
  password : ∀ s ∈ w.password, s.utf8ByteSize ≤ 64

theorem isEmpty_of_isField {text : List Char} {field : String} (h : Text.IsField text field) :
    field.isEmpty = false := by
  rw [h.trimmed]
  cases shape : Text.trim text with
  | nil => exact absurd shape h.given
  | cons c cs => simp

/-- A field that is there is not empty. -/
theorem filter_of_isOptionalField {text : List Char} {field : Option String}
    (h : Text.IsOptionalField text field) : (field.filter fun s => !s.isEmpty) = field := by
  cases field with
  | none => rfl
  | some s => simp [Option.filter, isEmpty_of_isField h]

theorem filter_of_isAuth {auth : Option (List Char)} {username password : Option String}
    (h : IsAuth auth username password) :
    (username.filter fun s => !s.isEmpty) = username ∧ (password.filter fun s => !s.isEmpty) = password := by
  cases h with
  | absent => exact ⟨rfl, rfl⟩
  | noBar bar => exact ⟨rfl, rfl⟩
  | cut cut first second => exact ⟨filter_of_isOptionalField first, filter_of_isOptionalField second⟩

theorem CredentialsWrite.isAccepted_iff {w : CredentialsWrite} {raw : List UInt8} :
    w.IsAccepted raw ↔ read parseCredentials raw = .ok w ∧
      Credentials.make w.identity w.secret = .ok ⟨w.identity, w.secret⟩ := by
  constructor
  · rintro ⟨⟨text, isText, spelled⟩, shortIdentity, shortSecret⟩
    have ⟨left, right, _, identity, secret⟩ := spelled
    have first : Credentials.fits Credentials.maxIdentity w.identity = true :=
      Credentials.fits_iff.2 ⟨Endpoint.one_le_utf8ByteSize (isEmpty_of_isField identity), shortIdentity⟩
    have second : Credentials.fits Credentials.maxSecret w.secret = true :=
      Credentials.fits_iff.2 ⟨Endpoint.one_le_utf8ByteSize (isEmpty_of_isField secret), shortSecret⟩
    exact ⟨read_eq_ok_iff.2 ⟨text, isText, parseCredentials_eq_ok_iff.2 spelled⟩,
      by simp [Credentials.make, first, second]⟩
  · rintro ⟨parsed, made⟩
    obtain ⟨text, isText, spelled⟩ := read_eq_ok_iff.1 parsed
    obtain ⟨first, second, -⟩ := Credentials.eq_of_make made
    exact ⟨⟨text, isText, parseCredentials_eq_ok_iff.1 spelled⟩, (Credentials.fits_iff.1 first).2,
      (Credentials.fits_iff.1 second).2⟩

/-- The endpoint that is adopted. -/
def EndpointWrite.endpoint (w : EndpointWrite) : Endpoint := ⟨w.host, w.port, w.username, w.password⟩

theorem isTooLong_eq_false_iff {limit : Nat} {field : Option String} :
    Endpoint.isTooLong limit field = false ↔ ∀ s ∈ field, s.utf8ByteSize ≤ limit := by
  cases field <;> simp [Endpoint.isTooLong]

theorem EndpointWrite.isAccepted_iff {w : EndpointWrite} {raw : List UInt8} :
    w.IsAccepted raw ↔ read parseEndpoint raw = .ok w ∧
      Endpoint.make w.host w.port w.username w.password = .ok w.endpoint := by
  constructor
  · rintro ⟨⟨text, isText, spelled⟩, shortHost, shortUsername, shortPassword⟩
    have ⟨target, auth, left, right, _, _, host, port, isAuth⟩ := spelled
    obtain ⟨username, password⟩ := filter_of_isAuth isAuth
    have hostFits : ¬ Endpoint.maxHost < w.host.utf8ByteSize := Nat.not_lt.2 shortHost
    have usernameFits : Endpoint.isTooLong Endpoint.maxUsername w.username = false :=
      isTooLong_eq_false_iff.2 shortUsername
    have passwordFits : Endpoint.isTooLong Endpoint.maxPassword w.password = false :=
      isTooLong_eq_false_iff.2 shortPassword
    have made : Endpoint.make w.host w.port w.username w.password = .ok w.endpoint := by
      simp [Endpoint.make, username, password, isEmpty_of_isField host, hostFits, port.nonzero, usernameFits,
        passwordFits, endpoint]
    exact ⟨read_eq_ok_iff.2 ⟨text, isText, parseEndpoint_eq_ok_iff.2 spelled⟩, made⟩
  · rintro ⟨parsed, made⟩
    obtain ⟨text, isText, spelled⟩ := read_eq_ok_iff.1 parsed
    obtain ⟨-, short, -, username, password, -⟩ := Endpoint.eq_of_make made
    exact ⟨⟨text, isText, parseEndpoint_eq_ok_iff.1 spelled⟩, short, isTooLong_eq_false_iff.1 username,
      isTooLong_eq_false_iff.1 password⟩

/-- What is spelled has no empty user name or password, so all of it is adopted. -/
theorem EndpointWrite.eq_of_make {w : EndpointWrite} {raw : List UInt8} {e : Endpoint}
    (parsed : read parseEndpoint raw = .ok w)
    (made : Endpoint.make w.host w.port w.username w.password = .ok e) : e = w.endpoint := by
  obtain ⟨text, -, spelled⟩ := read_eq_ok_iff.1 parsed
  obtain ⟨target, auth, left, right, -, -, -, -, isAuth⟩ := parseEndpoint_eq_ok_iff.1 spelled
  obtain ⟨username, password⟩ := filter_of_isAuth isAuth
  obtain ⟨-, -, -, -, -, rfl⟩ := Endpoint.eq_of_make made
  rw [username, password, endpoint]

/-! ## The station -/

variable {ρ β σ : Type} [Storage σ] {worn : Option String} {good : σ → Prop} {s s' : Station ρ β σ}

/-- Nothing has changed but the store, and the store holds what it held. -/
def IsUnchanged (s s' : Station ρ β σ) : Prop :=
  ∃ store, s' = { s with store } ∧ ∀ k, lookup k store = lookup k s.store

/-- The credentials stand in the memory of the link manager, whose backoff starts anew, and in the store.
Nothing else has changed. -/
def CredentialsWrite.IsAdopted (w : CredentialsWrite) (s s' : Station ρ β σ) : Prop :=
  ∃ store,
    s' = { s with
      store
      linkState := { s.linkState with
        credentials := some ⟨w.identity, w.secret⟩
        backoff := s.linkState.backoff.reset } } ∧
    lookup Store.linkIdentity store = some (.string w.identity) ∧
    lookup Store.linkSecret store = some (.string w.secret) ∧
    ∀ k ∉ Store.credentialKeys, lookup k store = lookup k s.store

/-- The endpoint stands in the memory of the broker manager and in the store, where nothing is found under the key
of a field that is absent. Nothing else has changed. -/
def EndpointWrite.IsAdopted (w : EndpointWrite) (s s' : Station ρ β σ) : Prop :=
  ∃ store,
    s' = { s with store, brokerState := { s.brokerState with endpoint := some w.endpoint } } ∧
    lookup Store.brokerHost store = some (.string w.host) ∧
    lookup Store.brokerPort store = some (.integer (Int64.ofNat w.port.toNat)) ∧
    lookup Store.brokerUsername store = w.username.map .string ∧
    lookup Store.brokerPassword store = w.password.map .string ∧
    ∀ k ∉ Store.endpointKeys, lookup k store = lookup k s.store

/-- A write answers that it took effect just if it is accepted and no key that it concerns is worn. It is then
adopted, and else nothing has changed. -/
structure IsWhole {ω : Type} (Accepted : ω → Prop) (keys : List String) (worn : Option String)
    (Adopted : ω → Station ρ β σ → Station ρ β σ → Prop) (s : Station ρ β σ)
    (r : Except Failure Unit × Station ρ β σ) : Prop where
  ok_iff : r.1 = .ok () ↔ (∃ w, Accepted w) ∧ ∀ k ∈ keys, worn ≠ some k
  adopted : r.1 = .ok () → ∀ w, Accepted w → Adopted w s r.2
  unchanged : r.1 ≠ .ok () → IsUnchanged s r.2

section Whole

variable {ω : Type} {Accepted : ω → Prop} {keys : List String}
  {Adopted : ω → Station ρ β σ → Station ρ β σ → Prop}

theorem isWhole_adopted {w : ω} (accepted : Accepted w) (only : ∀ v, Accepted v → v = w)
    (spared : ∀ k ∈ keys, worn ≠ some k) (adopted : Adopted w s s') :
    IsWhole Accepted keys worn Adopted s (.ok (), s') where
  ok_iff := ⟨fun _ => ⟨⟨w, accepted⟩, spared⟩, fun _ => rfl⟩
  adopted _ v hv := only v hv ▸ adopted
  unchanged failed := absurd rfl failed

theorem isWhole_refused {e : Failure} (cause : (∀ w, ¬ Accepted w) ∨ ∃ k ∈ keys, worn = some k)
    (same : IsUnchanged s s') : IsWhole Accepted keys worn Adopted s (.error e, s') where
  ok_iff := by
    refine ⟨nofun, ?_⟩
    rintro ⟨⟨w, accepted⟩, spared⟩
    obtain rejected | ⟨k, hk, hit⟩ := cause
    · exact absurd accepted (rejected w)
    · exact absurd hit (spared k hk)
  adopted := nofun
  unchanged _ := same

end Whole

theorem isWhole_writeCredentials (fails : FailsAt worn good) (hg : good s.store) (raw : List UInt8) :
    IsWhole (CredentialsWrite.IsAccepted · raw) Store.credentialKeys worn CredentialsWrite.IsAdopted s
      (writeCredentials raw s) := by
  unfold writeCredentials
  cases parsed : read parseCredentials raw with
  | error e =>
    refine isWhole_refused (.inl fun w accepted => ?_) ⟨s.store, rfl, fun _ => rfl⟩
    cases parsed.symm.trans (CredentialsWrite.isAccepted_iff.1 accepted).1
  | ok w =>
    have only : ∀ v : CredentialsWrite, v.IsAccepted raw → v = w := by
      intro v accepted
      cases parsed.symm.trans (CredentialsWrite.isAccepted_iff.1 accepted).1
      rfl
    dsimp only [Station.askLink]
    have sets := Link.sets_setCredentials fails w.identity w.secret (l := s.link) hg
    generalize s.link.setCredentials w.identity w.secret = r at sets
    cases sets with
    | @adopted store made spared good' wrote =>
      refine isWhole_adopted (CredentialsWrite.isAccepted_iff.2 ⟨parsed, made⟩) only spared ?_
      exact ⟨store, rfl, wrote _, wrote _, fun k hk => (wrote k).trans (written_of_not_mem hk _)⟩
    | refused store e cause good' same =>
      refine isWhole_refused (cause.imp_left fun unmade v accepted => ?_) ⟨store, rfl, same⟩
      cases only v accepted
      exact unmade _ (CredentialsWrite.isAccepted_iff.1 accepted).2

theorem isWhole_writeEndpoint (fails : FailsAt worn good) (hg : good s.store) (raw : List UInt8) :
    IsWhole (EndpointWrite.IsAccepted · raw) Store.endpointKeys worn EndpointWrite.IsAdopted s
      (writeEndpoint raw s) := by
  unfold writeEndpoint
  cases parsed : read parseEndpoint raw with
  | error e =>
    refine isWhole_refused (.inl fun w accepted => ?_) ⟨s.store, rfl, fun _ => rfl⟩
    cases parsed.symm.trans (EndpointWrite.isAccepted_iff.1 accepted).1
  | ok w =>
    have only : ∀ v : EndpointWrite, v.IsAccepted raw → v = w := by
      intro v accepted
      cases parsed.symm.trans (EndpointWrite.isAccepted_iff.1 accepted).1
      rfl
    dsimp only [Station.askBroker]
    have sets := Broker.sets_setEndpoint fails w.host w.port w.username w.password (b := s.broker) hg
    generalize s.broker.setEndpoint w.host w.port w.username w.password = r at sets
    cases sets with
    | @adopted store e made spared good' wrote =>
      obtain rfl := EndpointWrite.eq_of_make parsed made
      refine isWhole_adopted (EndpointWrite.isAccepted_iff.2 ⟨parsed, made⟩) only spared ?_
      exact ⟨store, rfl, wrote _, wrote _, wrote _, wrote _,
        fun k hk => (wrote k).trans (written_of_not_mem hk _)⟩
    | refused store e cause good' same =>
      refine isWhole_refused (cause.imp_left fun unmade v accepted => ?_) ⟨store, rfl, same⟩
      cases only v accepted
      exact unmade _ (EndpointWrite.isAccepted_iff.1 accepted).2

/-- Whatever is written, in whatever state: on a store that fails at one key at most, credentials and an endpoint
take effect as a whole or not at all. -/
theorem writes_whole (fails : FailsAt worn good) (s : Station ρ β σ) (hg : good s.store) (raw : List UInt8) :
    IsWhole (CredentialsWrite.IsAccepted · raw) Store.credentialKeys worn CredentialsWrite.IsAdopted s
      (writeCredentials raw s) ∧
    IsWhole (EndpointWrite.IsAccepted · raw) Store.endpointKeys worn EndpointWrite.IsAdopted s
      (writeEndpoint raw s) :=
  ⟨isWhole_writeCredentials fails hg raw, isWhole_writeEndpoint fails hg raw⟩

namespace Sample

/-- Memory that holds credentials and in which the key of the secret is worn out. -/
def tired : Store.Flash where
  values := [(Store.linkIdentity, .string "old"), (Store.linkSecret, .string "hunter22")]
  failing := [Store.linkSecret]

def station : Station Bench.Radio Bench.Client Store.Flash :=
  .start {} false {} {} { now := 0, store := tired }

def endpoint : EndpointWrite := ⟨"broker.local", 1883, some "me", none⟩

/-- The identity has been written when the secret fails, and is restored. The endpoint does not need that key. -/
theorem station_whole :
    Storage.FailsAt (some Store.linkSecret) (Store.Flash.Worn (some Store.linkSecret)) ∧
      Store.Flash.Worn (some Store.linkSecret) station.store ∧
      (∃ w : CredentialsWrite, w.IsAccepted (Text.utf8 " net | password ")) ∧
      (writeCredentials (Text.utf8 " net | password ") station).1 ≠ .ok () ∧
      IsUnchanged station (writeCredentials (Text.utf8 " net | password ") station).2 ∧
      endpoint.IsAccepted (Text.utf8 "broker.local: 1883 | me |  ") ∧
      (writeEndpoint (Text.utf8 "broker.local: 1883 | me |  ") station).1 = .ok () ∧
      endpoint.IsAdopted station (writeEndpoint (Text.utf8 "broker.local: 1883 | me |  ") station).2 := by
  have fails := Store.Flash.failsAt_worn (some Store.linkSecret)
  have worn : Store.Flash.Worn (some Store.linkSecret) station.store :=
    ⟨rfl, List.pairwise_pair.2 (by decide +kernel)⟩
  have credentials : CredentialsWrite.IsAccepted ⟨"net", "password"⟩ (Text.utf8 " net | password ") :=
    CredentialsWrite.isAccepted_iff.2 ⟨by rfl, by rfl⟩
  have accepted : endpoint.IsAccepted (Text.utf8 "broker.local: 1883 | me |  ") :=
    EndpointWrite.isAccepted_iff.2 ⟨by rfl, by rfl⟩
  obtain ⟨first, -⟩ := writes_whole fails station worn (Text.utf8 " net | password ")
  obtain ⟨-, second⟩ := writes_whole fails station worn (Text.utf8 "broker.local: 1883 | me |  ")
  have refused : (writeCredentials (Text.utf8 " net | password ") station).1 ≠ .ok () :=
    fun ok => (first.ok_iff.1 ok).2 _ (by decide) rfl
  have ok : (writeEndpoint (Text.utf8 "broker.local: 1883 | me |  ") station).1 = .ok () :=
    second.ok_iff.2 ⟨⟨endpoint, accepted⟩, by decide⟩
  exact ⟨fails, worn, ⟨_, credentials⟩, refused, first.unchanged refused, accepted, ok,
    second.adopted ok endpoint accepted⟩

end Sample

end Provisioning

end Telemetry
