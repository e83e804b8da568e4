import Telemetry.Proofs.Json.Tokens
import Telemetry.Proofs.Provisioning.Grammar
import Telemetry.Proofs.Text.Blank

/-!
# Provisioning writes are read back

A write is printed with its fields between the separators, an absent field as nothing. What the readers yield is in a
normal form: the fields are not empty, have no blanks around them and hold none of the separators that end them. A
write in this form is read back from its text, so a text that is accepted is normalised by reading and printing it.
-/

namespace Telemetry

/-! ## Fields -/

namespace Text

/-- A field that is read as it is written. -/
structure IsPlain (field : String) : Prop where
  given : field ≠ ""
  trimmed : IsTrimmed field.toList

/-- There is something else than blanks in the text. -/
def HasField (text : List Char) : Prop := ∃ c ∈ text, isBlank c = false

/-- A number from 1 to 65535 in decimal digits, with leading zeros perhaps and with blanks around it. -/
structure SpellsPort (text : List Char) : Prop where
  given : trim text ≠ []
  digits : ∀ c ∈ trim text, c.isDigit = true
  least : 1 ≤ digitsValue (trim text)
  greatest : digitsValue (trim text) ≤ 65535

variable {text : List Char} {field : String}

theorem IsPlain.isField (h : IsPlain field) : IsField field.toList field := by
  refine ⟨?_, ?_⟩
  · rw [trim_eq_self h.trimmed]
    simpa using h.given
  · rw [trim_eq_self h.trimmed, String.ofList_toList]

theorem IsField.isPlain (h : IsField text field) : IsPlain field := by
  rw [h.trimmed]
  refine ⟨fun empty => h.given ?_, ?_⟩
  · simpa using congrArg String.toList empty
  · rw [String.toList_ofList]
    exact isTrimmed_trim text

theorem IsField.mem (h : IsField text field) {c : Char} (hc : c ∈ field.toList) : c ∈ text := by
  rw [h.trimmed, String.toList_ofList] at hc
  exact mem_of_mem_trim hc

theorem exists_isField_iff : (∃ field, IsField text field) ↔ HasField text := by
  rw [HasField, ← trim_ne_nil_iff]
  exact ⟨fun ⟨_, h⟩ => h.given, fun given => ⟨_, given, rfl⟩⟩

/-- An absent field is written as nothing. -/
theorem isOptionalField_getD {field : Option String} (h : ∀ s ∈ field, IsPlain s) :
    IsOptionalField (field.getD "").toList field := by
  cases field with
  | none => rfl
  | some s => exact (h s rfl).isField

theorem IsOptionalField.isField {field : Option String} (h : IsOptionalField text field) :
    ∀ s ∈ field, IsField text s := by
  rintro s ⟨⟩
  exact h

theorem isBlank_of_isDigit {c : Char} (h : c.isDigit = true) : isBlank c = false := by
  have bounds : 48 ≤ c.toNat ∧ c.toNat ≤ 57 := by simpa [Char.isDigit, UInt32.le_iff_toNat_le] using h
  simp only [isBlank, Bool.or_eq_false_iff, Bool.and_eq_false_iff, decide_eq_false_iff_not, beq_eq_false_iff_ne]
  omega

/-- The digits of a port are read as this port. -/
theorem isPort_digits {port : UInt16} (nonzero : port ≠ 0) : IsPort (Nat.toDigits 10 port.toNat) port := by
  have digits : ∀ c ∈ Nat.toDigits 10 port.toNat, c.isDigit = true := fun _ hc => Json.isDigit_of_mem_toDigits hc
  have trimmed : trim (Nat.toDigits 10 port.toNat) = Nat.toDigits 10 port.toNat := by
    refine trim_eq_self ⟨fun c hc => ?_, fun c hc => ?_⟩
    · exact isBlank_of_isDigit (digits c (List.mem_of_mem_head? hc))
    · exact isBlank_of_isDigit (digits c (List.mem_of_mem_getLast? hc))
  refine ⟨?_, ?_, ?_, nonzero⟩
  · rw [trimmed]
    exact Nat.toDigits_ne_nil
  · rwa [trimmed]
  · rw [trimmed, Json.digitsValue_toDigits]

theorem exists_isPort_iff : (∃ port, IsPort text port) ↔ SpellsPort text := by
  constructor
  · rintro ⟨port, given, digits, value, nonzero⟩
    have small := port.toNat_lt
    have positive : port.toNat ≠ 0 := fun zero => nonzero (UInt16.toNat_inj.1 zero)
    exact ⟨given, digits, by omega, by omega⟩
  · rintro ⟨given, digits, least, greatest⟩
    have value : (UInt16.ofNat (digitsValue (trim text))).toNat = digitsValue (trim text) := by
      rw [UInt16.toNat_ofNat', Nat.mod_eq_of_lt (by omega)]
    refine ⟨UInt16.ofNat (digitsValue (trim text)), given, digits, value, fun zero => ?_⟩
    rw [zero] at value
    simp at value
    omega

end Text

namespace Provisioning

open Text

/-- What a reader makes of texts: it accepts those that are spelled right, yields values in normal form only, and reads
such a value back from the text that it is printed as. -/
structure Normalises {α : Type} (parse : String → Except Error α) (render : α → String) (normal : α → Prop)
    (spelled : String → Prop) : Prop where
  restores : ∀ w, normal w → parse (render w) = .ok w
  normal : ∀ text w, parse text = .ok w → normal w
  stable : ∀ text w, parse text = .ok w → parse (render w) = .ok w
  accepts : ∀ text, (∃ w, parse text = .ok w) ↔ spelled text

/-! ## Credentials -/

namespace CredentialsWrite

def render (w : CredentialsWrite) : String := w.identity ++ "|" ++ w.secret

structure IsNormal (w : CredentialsWrite) : Prop where
  identity : IsPlain w.identity
  free : '|' ∉ w.identity.toList
  secret : IsPlain w.secret

theorem toList_render (w : CredentialsWrite) : w.render.toList = w.identity.toList ++ '|' :: w.secret.toList := by
  simp [render]

theorem IsNormal.isSpelled {w : CredentialsWrite} (h : w.IsNormal) : w.IsSpelled w.render :=
  ⟨_, _, ⟨w.toList_render, h.free⟩, h.identity.isField, h.secret.isField⟩

theorem IsSpelled.isNormal {w : CredentialsWrite} {text : String} (h : w.IsSpelled text) : w.IsNormal := by
  obtain ⟨left, right, cut, identity, secret⟩ := h
  exact ⟨identity.isPlain, fun bar => cut.first (identity.mem bar), secret.isPlain⟩

end CredentialsWrite

/-- A bar, with something else than blanks on both sides. -/
def SpellsCredentials (text : String) : Prop :=
  ∃ left right, IsCut '|' text.toList left right ∧ HasField left ∧ HasField right

theorem exists_credentials_iff {text : String} :
    (∃ w : CredentialsWrite, w.IsSpelled text) ↔ SpellsCredentials text := by
  constructor
  · rintro ⟨w, left, right, cut, identity, secret⟩
    exact ⟨left, right, cut, exists_isField_iff.1 ⟨_, identity⟩, exists_isField_iff.1 ⟨_, secret⟩⟩
  · rintro ⟨left, right, cut, first, second⟩
    obtain ⟨identity, isIdentity⟩ := exists_isField_iff.2 first
    obtain ⟨secret, isSecret⟩ := exists_isField_iff.2 second
    exact ⟨⟨identity, secret⟩, left, right, cut, isIdentity, isSecret⟩

theorem normalises_credentials :
    Normalises parseCredentials CredentialsWrite.render CredentialsWrite.IsNormal SpellsCredentials where
  restores _ h := parseCredentials_eq_ok_iff.2 h.isSpelled
  normal _ _ h := (parseCredentials_eq_ok_iff.1 h).isNormal
  stable _ _ h := parseCredentials_eq_ok_iff.2 (parseCredentials_eq_ok_iff.1 h).isNormal.isSpelled
  accepts text := by simp only [parseCredentials_eq_ok_iff, exists_credentials_iff]

/-! ## Endpoints -/

namespace EndpointWrite

/-- The endpoint without user name and password. -/
def target (w : EndpointWrite) : String := w.host ++ ":" ++ w.port.toNat.repr

def render (w : EndpointWrite) : String :=
  w.target ++ "|" ++ (w.username.getD "" ++ "|" ++ w.password.getD "")

structure IsNormal (w : EndpointWrite) : Prop where
  host : IsPlain w.host
  free : ':' ∉ w.host.toList ∧ '|' ∉ w.host.toList
  port : w.port ≠ 0
  username : ∀ s ∈ w.username, IsPlain s ∧ '|' ∉ s.toList
  password : ∀ s ∈ w.password, IsPlain s

variable {w : EndpointWrite} {text : String}

theorem toList_target (w : EndpointWrite) : w.target.toList = w.host.toList ++ ':' :: Nat.toDigits 10 w.port.toNat := by
  simp [target, Nat.toList_repr]

/-- The host and the port are read from a text that begins with them. -/
theorem IsNormal.isSpelled_of_target (h : w.IsNormal) {auth : Option (List Char)} {username password : Option String}
    (isTarget : IsTarget text.toList w.target.toList auth) (isAuth : IsAuth auth username password) :
    IsSpelled { w with username, password } text :=
  ⟨_, _, _, _, isTarget, ⟨w.toList_target, h.free.1⟩, h.host.isField, isPort_digits h.port, isAuth⟩

theorem IsNormal.bar_notMem_target (h : w.IsNormal) : '|' ∉ w.target.toList := by
  rw [toList_target]
  intro bar
  obtain inHost | inPort := by simpa using bar
  · exact h.free.2 inHost
  · exact absurd (Json.isDigit_of_mem_toDigits inPort) (by decide)

theorem IsNormal.isSpelled (h : w.IsNormal) : w.IsSpelled w.render := by
  have cut : IsCut '|' w.render.toList w.target.toList (w.username.getD "" ++ "|" ++ w.password.getD "").toList :=
    ⟨by simp [render], h.bar_notMem_target⟩
  refine h.isSpelled_of_target (.cut cut) (.cut ⟨by simp, ?_⟩ (isOptionalField_getD fun s hs => (h.username s hs).1)
    (isOptionalField_getD h.password))
  cases name : w.username with
  | none => simp
  | some s => exact (h.username s name).2

/-- Without a second bar there is neither a user name nor a password. -/
theorem IsNormal.isSpelled_bare (h : w.IsNormal) :
    IsSpelled { w with username := none, password := none } w.target ∧
      ∀ rest : String, '|' ∉ rest.toList →
        IsSpelled { w with username := none, password := none } (w.target ++ "|" ++ rest) := by
  refine ⟨h.isSpelled_of_target (.alone h.bar_notMem_target) .absent, fun rest bar => ?_⟩
  have cut : IsCut '|' (w.target ++ "|" ++ rest).toList w.target.toList rest.toList :=
    ⟨by simp, h.bar_notMem_target⟩
  exact h.isSpelled_of_target (.cut cut) (.noBar bar)

theorem IsSpelled.isNormal (h : w.IsSpelled text) : w.IsNormal := by
  obtain ⟨target, auth, left, right, isTarget, cut, host, port, isAuth⟩ := h
  have noBar : '|' ∉ target := by
    cases isTarget with
    | alone bar => exact bar
    | cut cut => exact cut.first
  have free : ':' ∉ w.host.toList ∧ '|' ∉ w.host.toList := by
    refine ⟨fun colon => cut.first (host.mem colon), fun bar => noBar ?_⟩
    rw [cut.shape]
    exact List.mem_append_left _ (host.mem bar)
  obtain ⟨h, p, username, password⟩ := w
  cases isAuth with
  | absent | noBar => exact ⟨host.isPlain, free, port.nonzero, nofun, nofun⟩
  | cut cut first second =>
    refine ⟨host.isPlain, free, port.nonzero, fun s hs => ?_, fun s hs => (second.isField s hs).isPlain⟩
    have isField := first.isField s hs
    exact ⟨isField.isPlain, fun bar => cut.first (isField.mem bar)⟩

end EndpointWrite

/-- Before the first bar, if there is one, a colon with something else than blanks in front of it and a port behind
it. -/
def SpellsEndpoint (text : String) : Prop :=
  ∃ target auth left right, IsTarget text.toList target auth ∧ IsCut ':' target left right ∧ HasField left ∧
    SpellsPort right

theorem exists_endpoint_iff {text : String} : (∃ w : EndpointWrite, w.IsSpelled text) ↔ SpellsEndpoint text := by
  constructor
  · rintro ⟨w, target, auth, left, right, isTarget, cut, host, port, -⟩
    exact ⟨target, auth, left, right, isTarget, cut, exists_isField_iff.1 ⟨_, host⟩, exists_isPort_iff.1 ⟨_, port⟩⟩
  · rintro ⟨target, auth, left, right, isTarget, cut, given, number⟩
    obtain ⟨host, isHost⟩ := exists_isField_iff.2 given
    obtain ⟨port, isPort⟩ := exists_isPort_iff.2 number
    exact ⟨⟨host, port, (parseAuth auth).1, (parseAuth auth).2⟩, target, auth, left, right, isTarget, cut, isHost,
      isPort, parseAuth_eq_iff.1 rfl⟩

theorem normalises_endpoint :
    Normalises parseEndpoint EndpointWrite.render EndpointWrite.IsNormal SpellsEndpoint where
  restores _ h := parseEndpoint_eq_ok_iff.2 h.isSpelled
  normal _ _ h := (parseEndpoint_eq_ok_iff.1 h).isNormal
  stable _ _ h := parseEndpoint_eq_ok_iff.2 (parseEndpoint_eq_ok_iff.1 h).isNormal.isSpelled
  accepts text := by simp only [parseEndpoint_eq_ok_iff, exists_endpoint_iff]

/-! ## Both kinds of writes -/

/-- Provisioning writes are read back from their text and normalised by the readers. An endpoint whose second bar is
missing, or both, has neither a user name nor a password. -/
theorem writes_normalised :
    Normalises parseCredentials CredentialsWrite.render CredentialsWrite.IsNormal SpellsCredentials ∧
      Normalises parseEndpoint EndpointWrite.render EndpointWrite.IsNormal SpellsEndpoint ∧
      ∀ w : EndpointWrite, w.IsNormal →
        parseEndpoint w.target = .ok { w with username := none, password := none } ∧
          ∀ rest : String, '|' ∉ rest.toList →
            parseEndpoint (w.target ++ "|" ++ rest) = .ok { w with username := none, password := none } := by
  refine ⟨normalises_credentials, normalises_endpoint, fun w normal => ?_⟩
  obtain ⟨alone, followed⟩ := normal.isSpelled_bare
  exact ⟨parseEndpoint_eq_ok_iff.2 alone, fun rest bar => parseEndpoint_eq_ok_iff.2 (followed rest bar)⟩

/-- Blanks and leading zeros are gone once the text has been read, and a password keeps its bars. -/
example :
    let text := " broker.local\t:\u00a0 00001883|| se|cret "
    let w : EndpointWrite := ⟨"broker.local", 1883, none, some "se|cret"⟩
    parseEndpoint text = .ok w ∧ w.render = "broker.local:1883||se|cret" := by
  decide +kernel

end Provisioning
end Telemetry
