import Telemetry.Provisioning.Service

/-!
# What a provisioning peer may write

The readers of writes, described by how a text is put together. A write is 1 to 256 bytes of UTF-8. Credentials
are cut at the first bar, an endpoint at the first bar and at the first colon before it. Of what
stands behind the bar of an endpoint, only what has another bar in it gives a user name and a password. Blanks
around a field do not belong to it, and a field that consists of blanks is absent.
-/

namespace Telemetry

/-! ## Pieces of text -/

namespace Text

/-- The text is cut at the first `c` in it. -/
structure IsCut (c : Char) (text left right : List Char) : Prop where
  shape : text = left ++ c :: right
  first : c ∉ left

/-- What is left of the text without the blanks around it. -/
structure IsField (text : List Char) (field : String) : Prop where
  given : trim text ≠ []
  trimmed : field = String.ofList (trim text)

/-- A field that may be absent. -/
def IsOptionalField (text : List Char) : Option String → Prop
  | some field => IsField text field
  | none => trim text = []

/-- A number from 1 to 65535 in decimal digits, with blanks around them. -/
structure IsPort (text : List Char) (port : UInt16) : Prop where
  given : trim text ≠ []
  digits : ∀ c ∈ trim text, c.isDigit = true
  value : port.toNat = digitsValue (trim text)
  nonzero : port ≠ 0

theorem splitFirst_eq_some_iff {c : Char} {text left right : List Char} :
    splitFirst c text = some (left, right) ↔ IsCut c text left right := by
  constructor
  · intro h
    obtain ⟨shape, first⟩ := eq_append_of_splitFirst h
    exact ⟨shape, first⟩
  · rintro ⟨rfl, first⟩
    exact splitFirst_append first right

theorem splitFirst_eq_none_iff {c : Char} {text : List Char} : splitFirst c text = none ↔ c ∉ text := by
  induction text with
  | nil => simp [splitFirst]
  | cons d text ih => grind [splitFirst, Option.map_eq_none_iff]

theorem nonBlank?_eq_iff {text : List Char} {field : Option String} :
    nonBlank? text = field ↔ IsOptionalField text field := by
  unfold nonBlank?
  cases shape : trim text with
  | nil => cases field <;> grind [IsOptionalField, IsField]
  | cons c cs => cases field <;> grind [IsOptionalField, IsField]

theorem port?_eq_some_iff {n : Nat} {port : UInt16} :
    port? n = some port ↔ port.toNat = n ∧ port ≠ 0 := by
  have small := port.toNat_lt
  unfold port?
  constructor
  · intro h
    split at h
    · cases h
    · next bounds =>
      simp at bounds
      cases h
      have value : (UInt16.ofNat n).toNat = n := by
        rw [UInt16.toNat_ofNat', Nat.mod_eq_of_lt (by omega)]
      refine ⟨value, fun zero => bounds.1 ?_⟩
      rw [← value, zero]
      rfl
  · rintro ⟨rfl, nonzero⟩
    have positive : port.toNat ≠ 0 := fun zero => nonzero (UInt16.toNat_inj.1 zero)
    rw [if_neg (by simp; omega), UInt16.ofNat_toNat]

theorem decimal_port_iff {text : List Char} {port : UInt16} :
    (decimal? (trim text)).bind port? = some port ↔ IsPort text port := by
  unfold decimal?
  constructor
  · intro h
    split at h
    · cases h
    · next digits =>
      obtain ⟨value, nonzero⟩ := port?_eq_some_iff.1 h
      simp at digits
      exact ⟨digits.1, digits.2, value, nonzero⟩
  · rintro ⟨given, digits, value, nonzero⟩
    rw [if_neg (by simpa using ⟨given, digits⟩)]
    exact port?_eq_some_iff.2 ⟨value, nonzero⟩

end Text

namespace Provisioning

open Text

/-! ## Writes -/

/-- The bytes are those of the text, and there are 1 to 256 of them. -/
structure IsText (raw : List UInt8) (text : String) : Prop where
  bytes : raw = utf8 text
  given : 1 ≤ raw.length
  short : raw.length ≤ 256

theorem decode_eq_ok_iff {raw : List UInt8} {text : String} : decode raw = .ok text ↔ IsText raw text := by
  unfold decode
  constructor
  · intro h
    split at h
    · cases h
    · next given =>
      split at h
      · cases h
      · next short =>
        split at h
        · next found =>
          cases h
          have : raw.length ≠ 0 := by simpa using given
          exact ⟨(utf8_of_ofUtf8? found).symm, by omega, Nat.le_of_not_lt short⟩
        · cases h
  · rintro ⟨rfl, given, short⟩
    have notEmpty : (utf8 text).isEmpty = false := by
      cases bytes : utf8 text with
      | nil => simp [bytes] at given
      | cons b rest => rfl
    have fits : ¬ maxPayload < (utf8 text).length := Nat.not_lt.2 short
    rw [notEmpty, if_neg (by decide), if_neg fits, ofUtf8?_utf8]

/-- How credentials are spelled. -/
def CredentialsWrite.IsSpelled (w : CredentialsWrite) (text : String) : Prop :=
  ∃ left right, IsCut '|' text.toList left right ∧ IsField left w.identity ∧ IsField right w.secret

theorem parseCredentials_eq_ok_iff {text : String} {w : CredentialsWrite} :
    parseCredentials text = .ok w ↔ w.IsSpelled text := by
  constructor
  · intro h
    unfold parseCredentials at h
    split at h
    · cases h
    · next left right cut =>
      split at h
      · cases h
      · cases h
      · next identity secret first second =>
        cases h
        exact ⟨left, right, splitFirst_eq_some_iff.1 cut, nonBlank?_eq_iff.1 first, nonBlank?_eq_iff.1 second⟩
  · rintro ⟨left, right, cut, first, second⟩
    have identity : nonBlank? left = some w.identity := nonBlank?_eq_iff.2 first
    have secret : nonBlank? right = some w.secret := nonBlank?_eq_iff.2 second
    simp only [parseCredentials, splitFirst_eq_some_iff.2 cut, identity, secret]

/-- The part before the first bar, and what stands behind it if there is a bar. -/
inductive IsTarget (text : List Char) : List Char → Option (List Char) → Prop
  | alone (bar : '|' ∉ text) : IsTarget text text none
  | cut {target auth : List Char} (cut : IsCut '|' text target auth) : IsTarget text target (some auth)

/-- A user name and a password are there only if there is another bar. -/
inductive IsAuth : Option (List Char) → Option String → Option String → Prop
  | absent : IsAuth none none none
  | noBar {auth : List Char} (bar : '|' ∉ auth) : IsAuth (some auth) none none
  | cut {auth left right : List Char} {username password : Option String} (cut : IsCut '|' auth left right)
    (first : IsOptionalField left username) (second : IsOptionalField right password) :
    IsAuth (some auth) username password

/-- How an endpoint is spelled. -/
def EndpointWrite.IsSpelled (w : EndpointWrite) (text : String) : Prop :=
  ∃ target auth left right, IsTarget text.toList target auth ∧ IsCut ':' target left right ∧
    IsField left w.host ∧ IsPort right w.port ∧ IsAuth auth w.username w.password

theorem parseAuth_eq_iff {auth : Option (List Char)} {username password : Option String} :
    parseAuth auth = (username, password) ↔ IsAuth auth username password := by
  unfold parseAuth
  constructor
  · intro h
    split at h
    · next left right found =>
      obtain ⟨auth, rfl, cut⟩ := Option.bind_eq_some_iff.1 found
      cases h
      exact .cut (splitFirst_eq_some_iff.1 cut) (nonBlank?_eq_iff.1 rfl) (nonBlank?_eq_iff.1 rfl)
    · next none =>
      cases h
      cases auth with
      | none => exact .absent
      | some auth => exact .noBar (splitFirst_eq_none_iff.1 none)
  · intro h
    cases h with
    | absent => rfl
    | noBar bar => rw [Option.bind_some, splitFirst_eq_none_iff.2 bar]
    | cut cut first second =>
      rw [Option.bind_some, splitFirst_eq_some_iff.2 cut]
      exact Prod.ext (nonBlank?_eq_iff.2 first) (nonBlank?_eq_iff.2 second)

/-- The endpoint with this target, and what follows the first bar. -/
def ofTarget (target : List Char) (auth : Option (List Char)) : Except Error EndpointWrite :=
  match splitFirst ':' target with
  | none => .error (.missingSeparator ':')
  | some (left, right) =>
    match nonBlank? left, (decimal? (trim right)).bind port? with
    | none, _ => .error (.emptyField "host")
    | some _, none => .error (.invalidPort (String.ofList (trim right)))
    | some host, some port =>
      .ok { host, port, username := (parseAuth auth).1, password := (parseAuth auth).2 }

theorem parseEndpoint_of_isTarget {text : String} {target : List Char} {auth : Option (List Char)}
    (h : IsTarget text.toList target auth) : parseEndpoint text = ofTarget target auth := by
  unfold parseEndpoint ofTarget
  cases h with
  | alone bar =>
    have found := splitFirst_eq_none_iff.2 bar
    grind
  | cut cut =>
    have found := splitFirst_eq_some_iff.2 cut
    grind

theorem exists_isTarget (text : List Char) : ∃ target auth, IsTarget text target auth := by
  cases found : splitFirst '|' text with
  | none => exact ⟨text, none, .alone (splitFirst_eq_none_iff.1 found)⟩
  | some p => exact ⟨p.1, some p.2, .cut (splitFirst_eq_some_iff.1 found)⟩

theorem ofTarget_eq_ok_iff {target : List Char} {auth : Option (List Char)} {w : EndpointWrite} :
    ofTarget target auth = .ok w ↔ ∃ left right, IsCut ':' target left right ∧ IsField left w.host ∧
      IsPort right w.port ∧ IsAuth auth w.username w.password := by
  constructor
  · intro h
    unfold ofTarget at h
    split at h
    · cases h
    · next left right cut =>
      split at h
      · cases h
      · cases h
      · next host port given number =>
        cases h
        exact ⟨left, right, splitFirst_eq_some_iff.1 cut, nonBlank?_eq_iff.1 given,
          decimal_port_iff.1 number, parseAuth_eq_iff.1 rfl⟩
  · rintro ⟨left, right, cut, given, number, isAuth⟩
    have host : nonBlank? left = some w.host := nonBlank?_eq_iff.2 given
    simp only [ofTarget, splitFirst_eq_some_iff.2 cut, host, decimal_port_iff.2 number,
      parseAuth_eq_iff.2 isAuth]

theorem parseEndpoint_eq_ok_iff {text : String} {w : EndpointWrite} :
    parseEndpoint text = .ok w ↔ w.IsSpelled text := by
  constructor
  · intro h
    obtain ⟨target, auth, isTarget⟩ := exists_isTarget text.toList
    rw [parseEndpoint_of_isTarget isTarget] at h
    obtain ⟨left, right, spelled⟩ := ofTarget_eq_ok_iff.1 h
    exact ⟨target, auth, left, right, isTarget, spelled⟩
  · rintro ⟨target, auth, left, right, isTarget, spelled⟩
    rw [parseEndpoint_of_isTarget isTarget]
    exact ofTarget_eq_ok_iff.2 ⟨left, right, spelled⟩

/-- What a reader of texts makes of the bytes of a write. -/
theorem read_eq_ok_iff {α : Type} {parse : String → Except Error α} {raw : List UInt8} {w : α} :
    read parse raw = .ok w ↔ ∃ text, IsText raw text ∧ parse text = .ok w := by
  unfold read
  cases decoded : decode raw with
  | error e =>
    constructor
    · intro h
      cases h
    · rintro ⟨text, isText, -⟩
      cases decoded.symm.trans (decode_eq_ok_iff.2 isText)
  | ok text =>
    have isText := decode_eq_ok_iff.1 decoded
    constructor
    · intro h
      refine ⟨text, isText, ?_⟩
      change (parse text).mapError Error.failure = .ok w at h
      cases parsed : parse text <;> rw [parsed] at h <;> cases h
      rfl
    · rintro ⟨text', isText', parsed⟩
      cases decoded.symm.trans (decode_eq_ok_iff.2 isText')
      change (parse text).mapError Error.failure = .ok w
      rw [parsed]
      rfl

end Provisioning
end Telemetry
