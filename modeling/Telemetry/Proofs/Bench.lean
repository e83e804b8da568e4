import Telemetry.Bench.Equipment
import Telemetry.Proofs.Secret

/-!
# Equipment that is blind to secrets

The radio and the client of a bench and the store in memory take a secret as it comes: what they do next does not
depend on it.
-/

namespace Telemetry

namespace Store.Flash

/-- Entries under one key that differ at most in a secret. -/
def Entry (e e' : String × Value) : Prop := e'.1 = e.1 ∧ Store.Resembles e.1 (some e.2) (some e'.2)

variable {d d' : Dict Value} {key : String} {v v' : Value}

theorem resembles_find? (h : List.Forall₂ Entry d d') (key : String) :
    Store.Resembles key (Dict.find? key d) (Dict.find? key d') := by
  induction h with
  | nil => exact .same none
  | @cons e e' d d' first _ ih =>
    obtain ⟨k, v⟩ := e
    obtain ⟨k', v'⟩ := e'
    obtain ⟨rfl, like⟩ := first
    simp only [Dict.find?]
    split
    · next same => exact same ▸ like
    · exact ih

theorem entries_insert (h : List.Forall₂ Entry d d') (like : Store.Resembles key (some v) (some v')) :
    List.Forall₂ Entry (Dict.insert key v d) (Dict.insert key v' d') := by
  induction h with
  | nil => exact .cons ⟨rfl, like⟩ .nil
  | @cons e e' d d' first others ih =>
    obtain ⟨k, w⟩ := e
    obtain ⟨k', w'⟩ := e'
    obtain ⟨rfl, like'⟩ := first
    simp only [Dict.insert]
    split
    · exact .cons ⟨rfl, like⟩ (.cons ⟨rfl, like'⟩ others)
    · split
      · exact .cons ⟨rfl, like⟩ others
      · exact .cons ⟨rfl, like'⟩ ih

theorem entries_erase (h : List.Forall₂ Entry d d') (key : String) :
    List.Forall₂ Entry (Dict.erase key d) (Dict.erase key d') := by
  induction h with
  | nil => exact .nil
  | @cons e e' d d' first others ih =>
    obtain ⟨k, w⟩ := e
    obtain ⟨k', w'⟩ := e'
    obtain ⟨rfl, like⟩ := first
    simp only [Dict.erase]
    split
    · exact others
    · exact .cons ⟨rfl, like⟩ ih

theorem entries_put (h : List.Forall₂ Entry d d') {v v' : Option Value} (like : Store.Resembles key v v') :
    List.Forall₂ Entry (Dict.put key v d) (Dict.put key v' d') := by
  cases like with
  | same =>
    cases v with
    | none => exact entries_erase h key
    | some v => exact entries_insert h (.same _)
  | secret held same => exact entries_insert h (.secret held same)

/-- The same keys are worn out, and the entries differ at most in secrets. -/
structure Resembles (f f' : Flash) : Prop where
  failing : f'.failing = f.failing
  eraseFails : f'.eraseFails = f.eraseFails
  values : List.Forall₂ Entry f.values f'.values

theorem blind : Storage.Blind Resembles where
  lookup h key := resembles_find? h.values key
  put := by
    intro f f' h key v v' like
    simp only [Storage.put, Flash.put, h.failing]
    split
    · exact ⟨rfl, h⟩
    · exact ⟨rfl, rfl, h.eraseFails, entries_put h.values like⟩

end Store.Flash

namespace Bench

/-- The radio does not even keep the secret. -/
theorem Radio.blind : Telemetry.Radio.Blind (ρ := Radio) Eq where
  associate := by
    rintro r _ rfl identity secret secret' -
    exact ⟨rfl, rfl⟩
  isConnected := by rintro r _ rfl; rfl
  disconnect := by rintro r _ rfl _; rfl
  address := by rintro r _ rfl; rfl
  signal := by rintro r _ rfl; rfl

/-- The clients have last been given other options. -/
def Client.Resembles (c c' : Client) : Prop := ∃ options, c' = { c with lastOptions := options }

theorem Client.blind : Telemetry.Client.Blind Client.Resembles where
  connect := by
    rintro c _ ⟨last, rfl⟩ options password' -
    simp only [Telemetry.Client.connect, Client.connect]
    split
    · exact ⟨rfl, last, rfl⟩
    · exact ⟨rfl, some { options with password := password' }, rfl⟩
  isConnected := by rintro c _ ⟨last, rfl⟩; rfl
  disconnect := by rintro c _ ⟨last, rfl⟩; exact ⟨last, rfl⟩
  publish := by
    rintro c _ ⟨last, rfl⟩ message
    simp only [Telemetry.Client.publish, Client.publish]
    split
    · exact ⟨rfl, last, rfl⟩
    · split <;> exact ⟨rfl, last, rfl⟩

end Bench

end Telemetry
