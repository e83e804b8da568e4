import Telemetry.Backoff
import Telemetry.Board
import Telemetry.Credentials
import Telemetry.Indicator
import Telemetry.Settings.Basic

/-!
# The link manager

The link manager keeps a radio associated with a network. Whether it should is an intent that
survives restarts; the status follows what the radio shows at each tick. Attempts to reconnect are
spaced by a backoff whose budget is spent for good until the link is set up or turned on anew.
-/

namespace Telemetry

/-- The link manager without the board that it shares with others. -/
structure Link.State (ρ : Type) where
  radio : ρ
  /-- How long an association may take. -/
  timeout : UInt32
  credentials : Option Credentials := none
  enabled : Bool := false
  indicator : Indicator := { status := .disabled }
  backoff : Backoff
  /-- When the last association was started. -/
  startedAt : UInt32 := 0
  deriving DecidableEq, Repr

structure Link (ρ σ : Type) extends Link.State ρ, Board σ

namespace Link

variable {ρ σ : Type}

def status (l : Link ρ σ) : Status := l.indicator.status

def isConnected (l : Link ρ σ) : Bool := l.status.isConnected

def hasCredentials (l : Link ρ σ) : Bool := l.credentials.isSome

def identity? (l : Link ρ σ) : Option String := l.credentials.map (·.identity)

/-! ## The parts of an operation -/

def record (e : Event) (l : Link ρ σ) : Link ρ σ := { l with trace := l.trace ++ [e] }

/-- Takes the next reading of the clock. -/
def look (l : Link ρ σ) : Link ρ σ := { l with toClock := l.toClock.look }

/-- Tells the watcher, if there is a notice to tell. -/
def notify (notice : Option Status) (l : Link ρ σ) : Link ρ σ :=
  match notice with
  | some s => l.record (.linkNotice s)
  | none => l

/-- Takes on a status. -/
def become (s : Status) (l : Link ρ σ) : Link ρ σ :=
  let r := l.indicator.set s
  { l with indicator := r.1 }.notify r.2

def beginTick (l : Link ρ σ) : Link ρ σ := { l with indicator := l.indicator.beginTick }

def endTick (l : Link ρ σ) : Link ρ σ :=
  let r := l.indicator.endTick
  { l with indicator := r.1 }.notify r.2

def resetBackoff (l : Link ρ σ) : Link ρ σ := { l with backoff := l.backoff.reset }

section Storage

variable [Storage σ]

/-- The credentials in the store, if they are complete and valid. -/
def stored? (store : σ) : Option Credentials :=
  match Storage.string? Store.linkIdentity store, Storage.string? Store.linkSecret store with
  | some identity, some secret => (Credentials.make identity secret).toOption
  | _, _ => none

/-- Keeps the intent; a store that refuses is passed over. -/
def persist (enabled : Bool) (l : Link ρ σ) : Link ρ σ :=
  { l with store := (Storage.put Store.linkEnabled (some (.bool enabled)) l.store).2 }

end Storage

section Radio

variable [Radio ρ]

/-- The address, only while connected. -/
def address? (l : Link ρ σ) : Option String :=
  if l.isConnected then Radio.address l.radio else none

/-- The signal strength in dBm while connected, else 0. -/
def signal (l : Link ρ σ) : Int := if l.isConnected then Radio.signal l.radio else 0

def dissociate (powerDown : Bool) (l : Link ρ σ) : Link ρ σ :=
  { l with radio := Radio.disconnect powerDown l.radio }.record (.dissociate powerDown)

/-- Starts an association, on a reading of its own. The waiting time of the backoff counts from there if
no attempt has been made yet. -/
def connect (c : Credentials) (l : Link ρ σ) : Link ρ σ :=
  let l := l.look
  let r := Radio.associate c.identity c.secret l.radio
  let l :=
    { l with
      radio := r.2
      startedAt := l.now
      backoff := if l.backoff.attempts = 0 then l.backoff.markStarted l.now else l.backoff }
  let l := l.record (.associate c.identity c.secret (Transport.accepted r.1))
  l.become (if Transport.accepted r.1 then .connecting else .disconnected)

/-- Makes the next attempt if the backoff allows one. -/
def reconnectIfDue (l : Link ρ σ) : Link ρ σ :=
  match l.backoff.poll l.now with
  | (.wait, _) => l
  | (.spent, _) => l.become .error
  | (.attempt _, backoff) =>
    match l.credentials with
    | some c => { l with backoff }.connect c
    | none => { l with backoff }.become .error

/-- The work of a tick on a link that is on. -/
def advance (l : Link ρ σ) : Link ρ σ :=
  match l.status with
  | .connecting =>
    if Radio.isConnected l.radio then (l.become .connected).resetBackoff
    else if l.timeout < Clock.elapsed l.now l.startedAt then
      ((l.dissociate false).become .disconnected).reconnectIfDue
    else l
  | .connected =>
    if Radio.isConnected l.radio then l
    else ((l.become .disconnected).resetBackoff).reconnectIfDue
  | .disconnected | .error => l.reconnectIfDue
  | .disabled => l

/-! ## Operations -/

def tick (l : Link ρ σ) : Link ρ σ :=
  if l.enabled then l.beginTick.look.advance.endTick else l

variable [Storage σ]

/-- Turns the link on and starts connecting, unless it is on and busy. From `error` this also
restores a spent budget. -/
def enable (l : Link ρ σ) : Link ρ σ :=
  if l.enabled && l.status.isActive then l
  else
    match l.credentials with
    | none => l.become .error
    | some c => (({ l with enabled := true }.persist true).resetBackoff).connect c

def disable (l : Link ρ σ) : Link ρ σ :=
  (({ l with enabled := false }.dissociate true).persist false).become .disabled

/-- Restores the intent in the store. -/
def init (l : Link ρ σ) : Link ρ σ :=
  if Storage.bool? Store.linkEnabled l.store = some true ∧ l.hasCredentials then l.enable else l

/-- Keeps new credentials in the store and adopts them; a connection that stands is left alone. -/
def setCredentials (identity secret : String) (l : Link ρ σ) : Except Failure Unit × Link ρ σ :=
  match Credentials.make identity secret with
  | .error e => (.error e.failure, l)
  | .ok c =>
    let r := Storage.putAll
      [(Store.linkIdentity, some (.string c.identity)), (Store.linkSecret, some (.string c.secret))]
      l.store
    let l := { l with store := r.2 }
    match r.1 with
    | .error e => (.error (.storage e), l)
    | .ok () => (.ok (), { l with credentials := some c }.resetBackoff)

/-- Turns the link off and forgets the credentials. -/
def clearCredentials (l : Link ρ σ) : Except Failure Unit × Link ρ σ :=
  let l := if l.enabled then l.disable else l
  let r := Storage.putEach [(Store.linkIdentity, none), (Store.linkSecret, none)] l.store
  let l := { l with store := r.2 }
  match r.1 with
  | .error e => (.error (.storage e), l)
  | .ok () => (.ok (), { l with credentials := none })

end Radio

/-- The link manager as it is after a restart, before `init`. -/
def load [Storage σ] (settings : Settings.Link) (watched : Bool) (radio : ρ) (board : Board σ) :
    Link ρ σ :=
  { board with
    radio
    timeout := settings.connectionTimeoutMs
    credentials := stored? board.store
    indicator := { status := .disabled, watched }
    backoff := Backoff.ofPolicy settings.policy }

def diagnostic (l : Link ρ σ) : String :=
  open Text.Diagnostic in
  Text.Diagnostic.record "LinkManager"
    [ ("enabled", toString l.enabled),
      ("status", l.status.title),
      ("credentials", option (l.credentials.map Credentials.diagnostic)) ]

end Link
end Telemetry
