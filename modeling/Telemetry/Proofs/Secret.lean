import Telemetry.Board
import Telemetry.Credentials
import Telemetry.Endpoint
import Telemetry.Proofs.Replay

/-!
# Secrets

The secret of a network and the password of a broker are to stay unseen. Two values resemble each other if they
differ in nothing but such a secret, and where they do, each of the two secrets is a valid one. What cannot tell
values apart that resemble each other is blind to secrets: a store, a radio or a client that answers alike and is
left in states between which it cannot tell either.
-/

namespace Telemetry

open Transport

/-- A secret or a password that is accepted. -/
structure IsSecret (s : String) : Prop where
  filled : 0 < s.utf8ByteSize
  short : s.utf8ByteSize ≤ Credentials.maxSecret

/-- One of the two may stand where the other does. -/
def Exchangeable (s s' : String) : Prop := s' = s ∨ IsSecret s ∧ IsSecret s'

theorem Exchangeable.refl (s : String) : Exchangeable s s := .inl rfl

theorem Exchangeable.rel_refl (o : Option String) : Option.Rel Exchangeable o o := by
  cases o with
  | none => exact .none
  | some s => exact .some (.refl s)

/-- What stands where there is a secret. -/
def mask : String := ""

theorem map_eq_of_rel {α γ : Type} {R : α → α → Prop} {f : α → γ} (same : ∀ x x', R x x' → f x' = f x)
    {o o' : Option α} (h : Option.Rel R o o') : o'.map f = o.map f := by
  cases h with
  | none => rfl
  | some related => exact congrArg some (same _ _ related)

theorem isSome_eq_of_rel {α : Type} {R : α → α → Prop} {o o' : Option α} (h : Option.Rel R o o') :
    o'.isSome = o.isSome := by
  cases h <;> rfl

/-! ## Credentials and endpoints -/

namespace Credentials

/-- The credentials differ at most in the secret. -/
structure Resembles (c c' : Credentials) : Prop where
  identity : c'.identity = c.identity
  secret : Exchangeable c.secret c'.secret

theorem Resembles.refl (c : Credentials) : c.Resembles c := ⟨rfl, .refl _⟩

/-- Valid secrets are accepted with the same identities. -/
theorem make_cases (identity : String) {secret secret' : String} (h : Exchangeable secret secret') :
    (∃ e, make identity secret = .error e ∧ make identity secret' = .error e) ∨
      ∃ c c', make identity secret = .ok c ∧ make identity secret' = .ok c' ∧ c.Resembles c' := by
  rcases h with rfl | ⟨valid, valid'⟩
  · cases made : make identity secret' with
    | error e => exact .inl ⟨e, rfl, rfl⟩
    | ok c => exact .inr ⟨c, c, rfl, rfl, .refl c⟩
  · have fit : fits maxSecret secret = true := by simp [fits, valid.filled, valid.short]
    have fit' : fits maxSecret secret' = true := by simp [fits, valid'.filled, valid'.short]
    unfold make
    rw [fit, fit']
    split
    · exact .inl ⟨_, rfl, rfl⟩
    · exact .inr ⟨⟨identity, secret⟩, ⟨identity, secret'⟩, rfl, rfl, rfl, .inr ⟨valid, valid'⟩⟩

/-- The credentials with the secret masked. -/
def masked (c : Credentials) : Credentials := { c with secret := mask }

theorem masked_eq {c c' : Credentials} (h : c.Resembles c') : c'.masked = c.masked := by
  rw [masked, masked, h.identity]

theorem diagnostic_eq {c c' : Credentials} (h : c.Resembles c') : c'.diagnostic = c.diagnostic := by
  rw [diagnostic, diagnostic, h.identity]

end Credentials

namespace Endpoint

/-- A password that is given; an empty one is none. -/
def given (password : Option String) : Option String := password.filter fun s => !s.isEmpty

/-- The endpoints differ at most in the password, and both or neither have one. -/
structure Resembles (e e' : Endpoint) : Prop where
  host : e'.host = e.host
  port : e'.port = e.port
  username : e'.username = e.username
  password : Option.Rel Exchangeable e.password e'.password

/-- A secret is not empty, so it is given. -/
theorem given_rel {p p' : Option String} (h : Option.Rel Exchangeable p p') :
    Option.Rel Exchangeable (given p) (given p') := by
  cases h with
  | none => exact .none
  | @some s s' same =>
    rcases same with rfl | ⟨valid, valid'⟩
    · exact Exchangeable.rel_refl _
    · have filled : ∀ s : String, IsSecret s → given (some s) = some s := by
        intro s h
        have positive := h.filled
        have : s.isEmpty = false := by
          rw [String.isEmpty_eq_false_iff]
          rintro rfl
          simp at positive
        simp [given, this]
      rw [filled s valid, filled s' valid']
      exact .some (.inr ⟨valid, valid'⟩)

theorem isTooLong_eq {p p' : Option String} (h : Option.Rel Exchangeable p p') :
    isTooLong maxPassword p' = isTooLong maxPassword p := by
  cases h with
  | none => rfl
  | some same =>
    rcases same with rfl | ⟨valid, valid'⟩
    · rfl
    · have short : ¬maxPassword < _ := Nat.not_lt.2 valid.short
      have short' : ¬maxPassword < _ := Nat.not_lt.2 valid'.short
      simp [isTooLong, short, short']

/-- Valid passwords are accepted with the same hosts, ports and users. -/
theorem make_cases (host : String) (port : UInt16) (username : Option String) {p p' : Option String}
    (h : Option.Rel Exchangeable (given p) (given p')) :
    (∃ e, make host port username p = .error e ∧ make host port username p' = .error e) ∨
      ∃ e e', make host port username p = .ok e ∧ make host port username p' = .ok e' ∧ e.Resembles e' := by
  have length := isTooLong_eq h
  unfold given at h length
  simp only [make, length]
  split
  · exact .inl ⟨_, rfl, rfl⟩
  · split
    · exact .inl ⟨_, rfl, rfl⟩
    · split
      · exact .inl ⟨_, rfl, rfl⟩
      · split
        · exact .inl ⟨_, rfl, rfl⟩
        · exact .inr ⟨_, _, rfl, rfl, rfl, rfl, rfl, h⟩

/-- The endpoint with the password masked. -/
def masked (e : Endpoint) : Endpoint := { e with password := e.password.map fun _ => mask }

theorem masked_eq {e e' : Endpoint} (h : e.Resembles e') : e'.masked = e.masked := by
  have password := map_eq_of_rel (f := fun _ => mask) (fun _ _ _ => rfl) h.password
  simp only [masked, h.host, h.port, h.username, password]

theorem diagnostic_eq {e e' : Endpoint} (h : e.Resembles e') : e'.diagnostic = e.diagnostic := by
  have password := map_eq_of_rel (f := fun _ => Text.Diagnostic.redacted) (fun _ _ _ => rfl) h.password
  rw [diagnostic, diagnostic, h.host, h.port, h.username, password]

end Endpoint

/-! ## Events and stores -/

/-- The event without the secret or the password in it. -/
def Event.masked : Event → Event
  | .associate identity _ accepted => .associate identity mask accepted
  | .openSession options accepted =>
    .openSession { options with password := options.password.map fun _ => mask } accepted
  | e => e

/-- The keys under which a store holds secrets. -/
def Store.secretKeys : List String := [Store.linkSecret, Store.brokerPassword]

theorem Store.linkSecret_mem : Store.linkSecret ∈ Store.secretKeys := List.mem_cons_self

theorem Store.brokerPassword_mem : Store.brokerPassword ∈ Store.secretKeys :=
  List.mem_cons_of_mem _ List.mem_cons_self

/-- Values under a key that differ at most in a secret. -/
inductive Store.Resembles (key : String) : Option Store.Value → Option Store.Value → Prop
  | same (v : Option Store.Value) : Resembles key v v
  | secret (held : key ∈ Store.secretKeys) {s s' : String} (h : Exchangeable s s') :
    Resembles key (some (.string s)) (some (.string s'))

theorem Store.resembles_of_rel {key : String} (held : key ∈ Store.secretKeys) {p p' : Option String}
    (h : Option.Rel Exchangeable p p') : Store.Resembles key (p.map .string) (p'.map .string) := by
  cases h with
  | none => exact .same none
  | some same => exact .secret held same

def Store.Value.masked : Store.Value → Store.Value
  | .string _ => .string mask
  | v => v

namespace Storage

open Store (Value)

variable {σ : Type} [Storage σ]

/-- What is found under a key, with secrets masked. -/
def shown (s : σ) (key : String) : Option Value :=
  if key ∈ Store.secretKeys then (lookup key s).map Value.masked else lookup key s

/-- A store is blind to secrets if it cannot tell states apart that resemble each other. -/
structure Blind (S : σ → σ → Prop) : Prop where
  lookup : ∀ {s s'}, S s s' → ∀ key, Store.Resembles key (lookup key s) (lookup key s')
  put : ∀ {s s'}, S s s' → ∀ {key v v'}, Store.Resembles key v v' → Alike S (put key v s) (put key v' s')

namespace Blind

variable {S : σ → σ → Prop} {s s' : σ}

theorem bool?_eq (blind : Blind S) (h : S s s') (key : String) : bool? key s' = bool? key s := by
  have found := blind.lookup h key
  unfold bool?
  generalize Storage.lookup key s = v at found ⊢
  generalize Storage.lookup key s' = v' at found ⊢
  cases found <;> rfl

theorem integer?_eq (blind : Blind S) (h : S s s') (key : String) : integer? key s' = integer? key s := by
  have found := blind.lookup h key
  unfold integer?
  generalize Storage.lookup key s = v at found ⊢
  generalize Storage.lookup key s' = v' at found ⊢
  cases found <;> rfl

theorem string?_rel (blind : Blind S) (h : S s s') (key : String) :
    Option.Rel Exchangeable (string? key s) (string? key s') := by
  have found := blind.lookup h key
  unfold string?
  generalize Storage.lookup key s = v at found ⊢
  generalize Storage.lookup key s' = v' at found ⊢
  cases found with
  | same =>
    split
    · exact .some (.refl _)
    · exact .none
  | secret _ same => exact .some same

/-- Under other keys nothing differs. -/
theorem string?_eq (blind : Blind S) (h : S s s') (key : String)
    (other : key ∉ Store.secretKeys) : string? key s' = string? key s := by
  have found := blind.lookup h key
  unfold string?
  generalize Storage.lookup key s = v at found ⊢
  generalize Storage.lookup key s' = v' at found ⊢
  cases found with
  | same => rfl
  | secret held => exact absurd held other

theorem shown_eq (blind : Blind S) (h : S s s') : shown s' = shown s := by
  funext key
  have found := blind.lookup h key
  unfold shown
  generalize Storage.lookup key s = v at found ⊢
  generalize Storage.lookup key s' = v' at found ⊢
  cases found with
  | same => rfl
  | secret held => simp [held, Value.masked]

/-! ### Groups of writes -/

/-- Writes to the same keys, of values that resemble each other. -/
def Write (w w' : String × Option Value) : Prop := w'.1 = w.1 ∧ Store.Resembles w.1 w.2 w'.2

variable {writes writes' old old' : List (String × Option Value)}

theorem restore (blind : Blind S) (h : S s s') (same : List.Forall₂ Write writes writes') :
    S (Storage.restore writes s) (Storage.restore writes' s') := by
  induction same generalizing s s' with
  | nil => exact h
  | @cons w w' _ _ first _ ih =>
    obtain ⟨key, value⟩ := w
    obtain ⟨_, value'⟩ := w'
    obtain ⟨rfl, like⟩ := first
    exact ih (blind.put h like).state

theorem putEach (blind : Blind S) (h : S s s') (same : List.Forall₂ Write writes writes') :
    Alike S (Storage.putEach writes s) (Storage.putEach writes' s') := by
  induction same generalizing s s' with
  | nil => exact ⟨rfl, h⟩
  | @cons w w' _ _ first _ ih =>
    obtain ⟨key, value⟩ := w
    obtain ⟨_, value'⟩ := w'
    obtain ⟨rfl, like⟩ := first
    rcases (blind.put h like).cases with ⟨e, t, t', failed, failed', state⟩ | ⟨t, t', made, made', state⟩
    · simp only [Storage.putEach, failed, failed']
      exact ⟨rfl, state⟩
    · simp only [Storage.putEach, made, made']
      exact ih state

/-- Also what the writes overwrite resembles. -/
theorem putRest (blind : Blind S) {rest rest' : List ((String × Option Value) × Option Value)} (h : S s s')
    (overwritten : List.Forall₂ Write old old')
    (same : List.Forall₂ (fun w w' => Write w.1 w'.1 ∧ Store.Resembles w.1.1 w.2 w'.2) rest rest') :
    Alike S (Storage.putRest old rest s) (Storage.putRest old' rest' s') := by
  induction same generalizing s s' old old' with
  | nil => exact ⟨rfl, h⟩
  | @cons w w' _ _ first _ ih =>
    obtain ⟨⟨key, value⟩, before⟩ := w
    obtain ⟨⟨_, value'⟩, before'⟩ := w'
    obtain ⟨⟨rfl, like⟩, likeBefore⟩ := first
    rcases (blind.put h like).cases with ⟨e, t, t', failed, failed', state⟩ | ⟨t, t', made, made', state⟩
    · simp only [Storage.putRest, failed, failed']
      exact ⟨rfl, blind.restore state overwritten⟩
    · simp only [Storage.putRest, made, made']
      exact ih state (List.rel_append overwritten (.cons ⟨rfl, likeBefore⟩ .nil))

theorem putAll (blind : Blind S) (h : S s s') (same : List.Forall₂ Write writes writes') :
    Alike S (Storage.putAll writes s) (Storage.putAll writes' s') := by
  refine blind.putRest h .nil ?_
  rw [List.forall₂_map_left_iff, List.forall₂_map_right_iff]
  refine same.imp fun w w' like => ⟨like, ?_⟩
  rw [like.1, value?_eq_lookup, value?_eq_lookup]
  exact blind.lookup h w.1

end Blind

end Storage

/-! ## Hardware -/

/-- A radio is blind to secrets if it cannot tell states apart that differ in them. -/
structure Radio.Blind {ρ : Type} [Radio ρ] (A : ρ → ρ → Prop) : Prop where
  associate : ∀ {r r'}, A r r' → ∀ identity {secret secret'}, Exchangeable secret secret' →
    Alike A (Radio.associate identity secret r) (Radio.associate identity secret' r')
  isConnected : ∀ {r r'}, A r r' → Radio.isConnected r' = Radio.isConnected r
  disconnect : ∀ {r r'}, A r r' → ∀ powerDown, A (Radio.disconnect powerDown r) (Radio.disconnect powerDown r')
  address : ∀ {r r'}, A r r' → Radio.address r' = Radio.address r
  signal : ∀ {r r'}, A r r' → Radio.signal r' = Radio.signal r

/-- A client is blind to passwords if it cannot tell states apart that differ in them. -/
structure Client.Blind {β : Type} [Client β] (A : β → β → Prop) : Prop where
  connect : ∀ {c c'}, A c c' → ∀ (options : ConnectOptions) {password'},
    Option.Rel Exchangeable options.password password' →
      Alike A (Client.connect options c) (Client.connect { options with password := password' } c')
  isConnected : ∀ {c c'}, A c c' → Client.isConnected c' = Client.isConnected c
  disconnect : ∀ {c c'}, A c c' → A (Client.disconnect c) (Client.disconnect c')
  publish : ∀ {c c'}, A c c' → ∀ message, Alike A (Client.publish message c) (Client.publish message c')

/-! ## The board -/

/-- The boards have the same clock, and the traces and the stores differ at most in secrets. -/
structure Board.Resembles {σ : Type} (S : σ → σ → Prop) (b b' : Board σ) : Prop where
  clock : b'.toClock = b.toClock
  trace : b'.trace.map Event.masked = b.trace.map Event.masked
  store : S b.store b'.store

end Telemetry
