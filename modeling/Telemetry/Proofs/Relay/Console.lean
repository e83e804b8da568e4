import Telemetry.Proofs.Provisioning.RoundTrip
import Telemetry.Proofs.Text.Offset
import Telemetry.Proofs.Text.Words
import Telemetry.Relay.Console

/-!
# Console lines are read back

The keys of a console line are looked for anywhere in it, by byte offsets between which the values are cut out. The
offsets always fit the text, and what is cut out is what `wifi?` and `mqtt?` take by characters. A line that is put
together from values is read as these values, in which a password may hold anything.
-/

namespace Telemetry.Relay.Console

open Text

/-! ## Reading by byte offsets -/

/-- `wifi?` by byte offsets. There is no result if a slice is out of bounds. -/
def wifiByOffsets? (params : List Char) : Option (Option Command) :=
  match offset? ssidKey params, offset? passKey params with
  | some ssidAt, some passAt =>
    if passAt < ssidAt then some none
    else do
      let ssid ← slice? (ssidAt + 5) passAt params
      let pass ← slice? (passAt + 5) (bytes params).length params
      return (nonBlank? ssid).map fun name => .wifi name (String.ofList (trim pass))
  | _, _ => some none

/-- The endpoint that the words in front of the password name. -/
def endpoint? (head : List Char) (pass : Option String) : Option Command := do
  let e ← (words head).foldlM Endpoint.word? ({} : Endpoint)
  let host ← e.host
  return .mqtt host e.port e.user pass

/-- `mqtt?` by byte offsets. There is no result if a slice is out of bounds. -/
def mqttByOffsets? (params : List Char) : Option (Option Command) :=
  match offset? passKey params with
  | none => some (endpoint? params none)
  | some passAt => do
    let head ← slice? 0 passAt params
    let pass ← slice? (passAt + 5) (bytes params).length params
    return endpoint? head (nonBlank? pass)

/-! ## Values behind their keys -/

theorem isAscii_ssidKey : IsAscii ssidKey := by decide

theorem isAscii_passKey : IsAscii passKey := by decide

variable {x y name : List Char}

/-- The value behind a key is cut out by characters. -/
theorem value_behind (x key y z : List Char) :
    ((x ++ key ++ y ++ z).take (x ++ key ++ y).length).drop (x.length + key.length) = y := by
  rw [List.take_left, ← List.length_append, List.drop_left]

/-- The value behind a key is cut out by bytes. -/
theorem slice?_value (key : List Char) (five : (bytes key).length = 5) (x y z : List Char) :
    slice? ((bytes x).length + 5) (bytes (x ++ key ++ y)).length (x ++ key ++ y ++ z) = some y := by
  have cut := slice?_append (x ++ key) y z
  rwa [bytes_append x key, List.length_append, five] at cut

/-- The value at the end of the text. -/
theorem slice?_last (key : List Char) (five : (bytes key).length = 5) (x y : List Char) :
    slice? ((bytes x).length + 5) (bytes (x ++ key ++ y)).length (x ++ key ++ y) = some y := by
  simpa using slice?_value key five x y []

theorem drop_behind (x key y : List Char) : (x ++ key ++ y).drop (x.length + key.length) = y := by
  rw [← List.length_append, List.drop_left]

/-- The offset of a key that is found. -/
theorem offset?_of_find? {key : List Char} (ascii : IsAscii key) (given : key ≠ [])
    (found : find? key (x ++ key ++ y) = some x.length) : offset? key (x ++ key ++ y) = some (bytes x).length := by
  rw [offset?_eq ascii given, found, Option.map_some, List.append_assoc, List.take_left]

theorem wifi?_of_find? (ssidAt : find? ssidKey (x ++ ssidKey ++ name ++ passKey ++ y) = some x.length)
    (passAt : find? passKey (x ++ ssidKey ++ name ++ passKey ++ y) = some (x ++ ssidKey ++ name).length) :
    wifi? (x ++ ssidKey ++ name ++ passKey ++ y) =
      (nonBlank? name).map fun ssid => .wifi ssid (String.ofList (trim y)) := by
  have places : ¬ (x ++ ssidKey ++ name).length < x.length := by simp
  have between := value_behind x ssidKey name (passKey ++ y)
  rw [← List.append_assoc] at between
  rw [wifi?, ssidAt, passAt, Option.map_eq_bind]
  simp only [Option.bind_eq_bind, Option.bind_some, if_neg places, between, drop_behind]
  rfl

theorem wifiByOffsets?_of_find? (ssidAt : find? ssidKey (x ++ ssidKey ++ name ++ passKey ++ y) = some x.length)
    (passAt : find? passKey (x ++ ssidKey ++ name ++ passKey ++ y) = some (x ++ ssidKey ++ name).length) :
    wifiByOffsets? (x ++ ssidKey ++ name ++ passKey ++ y) =
      some ((nonBlank? name).map fun ssid => .wifi ssid (String.ofList (trim y))) := by
  have ordered : ¬ (bytes (x ++ ssidKey ++ name)).length < (bytes x).length := by
    rw [List.append_assoc, bytes_append, List.length_append]
    omega
  have between := slice?_value ssidKey (by decide) x name (passKey ++ y)
  have last := slice?_last passKey (by decide) (x ++ ssidKey ++ name) y
  have second := offset?_of_find? isAscii_passKey (by decide) passAt
  have first : offset? ssidKey (x ++ ssidKey ++ name ++ passKey ++ y) = some (bytes x).length := by
    simp only [List.append_assoc (x ++ ssidKey)] at ssidAt ⊢
    exact offset?_of_find? isAscii_ssidKey (by decide) ssidAt
  rw [← List.append_assoc] at between
  simp only [wifiByOffsets?, first, second, if_neg ordered, between, last, Option.bind_eq_bind, Option.bind_some,
    Option.pure_def]

theorem mqtt?_of_find? (passAt : find? passKey (x ++ passKey ++ y) = some x.length) :
    mqtt? (x ++ passKey ++ y) = endpoint? x (nonBlank? y) := by
  have front : (x ++ passKey ++ y).take x.length = x := by rw [List.append_assoc, List.take_left]
  unfold mqtt?
  rw [passAt]
  simp only [Option.bind_some, front, drop_behind]
  rfl

theorem mqtt?_of_no_pass (absent : find? passKey x = none) : mqtt? x = endpoint? x none := by
  rw [mqtt?, absent]
  rfl

/-! ## The slices fit -/

/-- No key begins within the other one, so the first ends before the second begins. -/
theorem keys_apart {x' y' : List Char} (h : x ++ ssidKey ++ y = x' ++ passKey ++ y') :
    (∃ name, x' = x ++ ssidKey ++ name ∧ y = name ++ passKey ++ y') ∨ ∃ c rest, x = x' ++ c :: rest := by
  rw [List.append_assoc, List.append_assoc] at h
  obtain ⟨gap, rfl, h'⟩ | ⟨rest, rfl, h'⟩ := List.append_eq_append_iff.1 h
  · left
    obtain ⟨name, rfl, rfl⟩ | ⟨rest, split, h'⟩ := List.append_eq_append_iff.1 h'
    · exact ⟨name, by simp, by simp⟩
    · cases rest with
      | nil => exact ⟨[], by simp [split], by simpa using h'.symm⟩
      | cons d rest =>
        -- The end of the first key would begin with the `p` of the second one.
        obtain ⟨rfl, -⟩ := List.cons.inj h'
        exact absurd (split ▸ List.mem_append_right gap List.mem_cons_self) (by decide : 'p' ∉ ssidKey)
  · right
    cases rest with
    | nil => exact absurd (List.cons.inj h').1 (by decide)
    | cons d rest => exact ⟨d, rest, rfl⟩

theorem wifiByOffsets?_eq (params : List Char) : wifiByOffsets? params = some (wifi? params) := by
  cases foundSsid : find? ssidKey params with
  | none =>
    rw [wifiByOffsets?, wifi?, offset?_eq (by decide) (by decide), foundSsid]
    rfl
  | some i =>
    cases foundPass : find? passKey params with
    | none =>
      rw [wifiByOffsets?, wifi?, offset?_eq isAscii_passKey (by decide), foundSsid, foundPass]
      cases offset? ssidKey params <;> rfl
    | some j =>
      obtain ⟨x, y, split, rfl⟩ := exists_of_find? foundSsid
      obtain ⟨x', y', split', rfl⟩ := exists_of_find? foundPass
      obtain ⟨name, rfl, rfl⟩ | ⟨c, rest, rfl⟩ := keys_apart (split.symm.trans split')
      · subst split'
        rw [wifiByOffsets?_of_find? foundSsid foundPass, wifi?_of_find? foundSsid foundPass]
      · -- The password stands in front of the name.
        have early : (bytes x').length < (bytes (x' ++ c :: rest)).length := by
          have := List.length_pos_iff.2 (String.utf8EncodeChar_ne_nil (c := c))
          rw [bytes_append, bytes_cons, List.length_append, List.length_append]
          omega
        have ssidAt : offset? ssidKey params = some (bytes (x' ++ c :: rest)).length := by
          rw [split] at foundSsid ⊢
          exact offset?_of_find? (by decide) (by decide) foundSsid
        have passAt : offset? passKey params = some (bytes x').length := by
          rw [split'] at foundPass ⊢
          exact offset?_of_find? (by decide) (by decide) foundPass
        simp [wifiByOffsets?, wifi?, ssidAt, passAt, early, foundSsid, foundPass]

theorem mqttByOffsets?_eq (params : List Char) : mqttByOffsets? params = some (mqtt? params) := by
  cases found : find? passKey params with
  | none => rw [mqttByOffsets?, mqtt?_of_no_pass found, offset?_eq (by decide) (by decide), found, Option.map_none]
  | some i =>
    obtain ⟨x, y, rfl, rfl⟩ := exists_of_find? found
    have head : slice? 0 (bytes x).length (x ++ passKey ++ y) = some x := by
      simpa using slice?_append [] x (passKey ++ y)
    have last := slice?_last passKey (by decide) x y
    simp only [mqttByOffsets?, mqtt?_of_find? found, offset?_of_find? (by decide) (by decide) found, head, last,
      Option.bind_eq_bind, Option.bind_some, Option.pure_def]

/-! ## Lines -/

def wifiLine (ssid pass : String) : String := "wifi ssid=" ++ ssid ++ " pass=" ++ pass

/-- The password at the end of a line, without its key if there is none. -/
def passEnd : Option String → List Char
  | some pass => passKey ++ pass.toList
  | none => []

def mqttLine (head : String) (pass : Option String) : String := "mqtt " ++ head ++ String.ofList (passEnd pass)

theorem toList_wifiLine (ssid pass : String) :
    (wifiLine ssid pass).toList =
      "wifi ".toList ++ ([] ++ ssidKey ++ (ssid.toList ++ [' ']) ++ passKey ++ pass.toList) := by
  have front : "wifi ssid=".toList = "wifi ".toList ++ ssidKey := by decide
  have between : " pass=".toList = [' '] ++ passKey := by decide
  simp only [wifiLine, String.toList_append, front, between, List.append_assoc, List.nil_append]

theorem toList_mqttLine (head : String) (pass : Option String) :
    (mqttLine head pass).toList = "mqtt ".toList ++ (head.toList ++ passEnd pass) := by
  rw [mqttLine, String.toList_append, String.toList_append, @String.toList_ofList (passEnd pass), List.append_assoc]

theorem parse_wifi {line : String} {params : List Char} (h : trim line.toList = "wifi ".toList ++ params) :
    parse line = usageUnless wifiUsage (wifi? params) := by
  have command := after?_append "wifi ".toList params
  unfold parse
  rw [h]
  simp only [command]
  simp

theorem parse_mqtt {line : String} {params : List Char} (h : trim line.toList = "mqtt ".toList ++ params) :
    parse line = usageUnless mqttUsage (mqtt? params) := by
  have command := after?_append "mqtt ".toList params
  have other : after? "wifi ".toList ("mqtt ".toList ++ params) = none := rfl
  unfold parse
  rw [h]
  simp only [command, other]
  simp

/-- A line that ends with a password is trimmed if the password is. -/
theorem trim_line {command front pass : List Char} (first : ∀ c ∈ (command ++ front).head?, isBlank c = false)
    (trimmed : IsTrimmed pass) :
    trim (command ++ (front ++ passKey ++ pass)) = command ++ (front ++ passKey ++ pass) := by
  have ends : IsTrimmed (command ++ front ++ passKey) := by
    constructor
    · intro c hc
      cases shape : command ++ front with
      | nil =>
        rw [shape] at hc
        cases hc
        decide
      | cons d rest =>
        rw [shape] at first hc
        exact first c hc
    · intro c hc
      rw [List.getLast?_append] at hc
      cases hc
      decide
  have whole := ends.append trimmed
  simp only [List.append_assoc] at whole ⊢
  exact trim_eq_self whole

/-! ### A network -/

theorem isField_append_blanks {field : String} {gap : List Char} (h : IsPlain field)
    (blank : ∀ c ∈ gap, isBlank c = true) : IsField (field.toList ++ gap) field := by
  have trimmed := trim_append_blanks h.trimmed blank
  refine ⟨?_, ?_⟩
  · rw [trimmed]
    simpa using h.given
  · rw [trimmed, String.ofList_toList]

/-- No key of a password begins in front of the one that ends the network name. -/
theorem passKey_after_name {ssid : List Char} (free : ¬ passKey <:+: ssid) :
    ¬ passKey <:+: [] ++ ssidKey ++ (ssid ++ [' ']) := by
  intro inside
  have behind : passKey <:+: ssid ++ [' '] := infix_of_append (by decide) inside
  have other : ∀ d ∈ [' '].head?, d ∉ passKey := by
    rintro _ ⟨⟩
    decide
  obtain inside | inside := infix_or_infix other behind
  · exact free inside
  · exact absurd inside (by decide)

/-- A network name and a password are read back from their line. -/
theorem parse_wifiLine {ssid pass : String} (name : IsPlain ssid) (free : ¬ passKey <:+: ssid.toList)
    (trimmed : IsTrimmed pass.toList) : parse (wifiLine ssid pass) = .ok (some (.wifi ssid pass)) := by
  let value := ssid.toList ++ [' ']
  have first : ∀ c ∈ ("wifi ".toList ++ ([] ++ ssidKey ++ value)).head?, isBlank c = false := by simp [isBlank]
  have line : trim (wifiLine ssid pass).toList =
      "wifi ".toList ++ ([] ++ ssidKey ++ value ++ passKey ++ pass.toList) := by
    rw [toList_wifiLine]
    exact trim_line first trimmed
  have ssidAt : find? ssidKey ([] ++ ssidKey ++ value ++ passKey ++ pass.toList) = some 0 := by
    simpa using find?_at_start ssidKey (value ++ passKey ++ pass.toList)
  have passAt := find?_append (by decide) (passKey_after_name free) pass.toList
  have read : nonBlank? value = some ssid :=
    nonBlank?_eq_iff.2 (isField_append_blanks name (List.forall_mem_singleton.2 rfl))
  rw [parse_wifi line, wifi?_of_find? ssidAt passAt, read, trim_eq_self trimmed, String.ofList_toList]
  rfl

/-! ### The words of an endpoint -/

/-- A value that is a word and does not hold the key of the password. -/
structure IsValue (value : String) : Prop where
  isWord : IsWord value.toList
  free : ¬ passKey <:+: value.toList

/-- The values of an endpoint that the words of a line can name. -/
structure AreValues (host : String) (port : UInt16) (user : Option String) : Prop where
  host : IsValue host
  port : port ≠ 0
  user : ∀ name ∈ user, IsValue name

def hostWord (host : String) : List Char := "broker=".toList ++ host.toList

def portWord (port : UInt16) : List Char := "port=".toList ++ Nat.toDigits 10 port.toNat

def userWord (user : String) : List Char := "user=".toList ++ user.toList

/-- A word that begins with no key and does not hold that of the password. -/
structure IsNote (word : List Char) : Prop where
  host : ¬ "broker=".toList <+: word
  port : ¬ "port=".toList <+: word
  user : ¬ "user=".toList <+: word
  free : ¬ passKey <:+: word

/-- The words that name the values of an endpoint. -/
inductive IsSetting (host : String) (port : UInt16) (user : Option String) : List Char → Prop
  | host : IsSetting host port user (hostWord host)
  | port : IsSetting host port user (portWord port)
  | user {name : String} (given : user = some name) : IsSetting host port user (userWord name)

/-- The words of a line that holds nothing else. -/
def settings (host : String) (port : UInt16) (user : Option String) : List (List Char) :=
  hostWord host :: portWord port :: (user.map userWord).toList

/-- The words name these values and no other ones, in any order and with other words among them. -/
structure Names (ws : List (List Char)) (host : String) (port : UInt16) (user : Option String) : Prop where
  named : ∀ w, IsSetting host port user w → w ∈ ws
  rest : ∀ w ∈ ws, IsSetting host port user w ∨ IsNote w

variable {host : String} {port : UInt16} {user : Option String} {w : List Char} {ws : List (List Char)} {e : Endpoint}

theorem IsValue.isPlain {value : String} (h : IsValue value) : IsPlain value where
  given empty := h.isWord.given (by rw [empty]; rfl)
  trimmed := ⟨fun c hc => h.isWord.solid c (List.mem_of_mem_head? hc),
    fun c hc => h.isWord.solid c (List.mem_of_mem_getLast? hc)⟩

theorem nonBlank?_of_isPlain {field : String} (h : IsPlain field) : nonBlank? field.toList = some field :=
  nonBlank?_eq_iff.2 h.isField

theorem signedDecimal?_toDigits (n : Nat) : signedDecimal? (Nat.toDigits 10 n) = some n := by
  have digits : ∀ c ∈ Nat.toDigits 10 n, c.isDigit = true := fun _ hc => Json.isDigit_of_mem_toDigits hc
  have read : decimal? (Nat.toDigits 10 n) = some n := by
    rw [decimal?, if_neg (by simpa [Nat.toDigits_ne_nil] using digits), Json.digitsValue_toDigits]
  unfold signedDecimal?
  split
  · next sign =>
    rw [sign] at digits
    exact absurd (digits '+' List.mem_cons_self) (by decide)
  · exact read

theorem word?_hostWord (e : Endpoint) (host : String) :
    e.word? (hostWord host) = some { e with host := nonBlank? host.toList } := by
  unfold Endpoint.word? hostWord
  rw [after?_append]

theorem word?_portWord (e : Endpoint) (nonzero : port ≠ 0) : e.word? (portWord port) = some { e with port } := by
  have other : after? "broker=".toList (portWord port) = none := rfl
  have value : after? "port=".toList (portWord port) = some (Nat.toDigits 10 port.toNat) := after?_append _ _
  have read : port? port.toNat = some port := port?_eq_some_iff.2 ⟨rfl, nonzero⟩
  unfold Endpoint.word?
  rw [other, value]
  simp only [signedDecimal?_toDigits, Option.bind_some, read, Option.map_some]

theorem word?_userWord (e : Endpoint) (user : String) :
    e.word? (userWord user) = some { e with user := nonBlank? user.toList } := by
  have first : after? "broker=".toList (userWord user) = none := rfl
  have second : after? "port=".toList (userWord user) = none := rfl
  have value : after? "user=".toList (userWord user) = some user.toList := after?_append _ _
  unfold Endpoint.word?
  rw [first, second, value]

theorem IsNote.word?_eq (h : IsNote w) (e : Endpoint) : e.word? w = some e := by
  unfold Endpoint.word?
  rw [after?_eq_none_iff.2 h.host, after?_eq_none_iff.2 h.port, after?_eq_none_iff.2 h.user]

theorem IsSetting.free (values : AreValues host port user) (h : IsSetting host port user w) : ¬ passKey <:+: w := by
  intro inside
  cases h with
  | host => exact values.host.free (infix_of_append (by decide) inside)
  | port =>
    have other : ∀ d ∈ (Nat.toDigits 10 port.toNat).head?, d ∉ passKey := by
      intro d hd inKey
      have digit := Json.isDigit_of_mem_toDigits (List.mem_of_mem_head? hd)
      have letters : passKey.all (fun c => !c.isDigit) = true := by decide
      simpa [digit] using List.all_eq_true.1 letters d inKey
    obtain inside | inside := infix_or_infix other inside
    · exact absurd inside (by decide)
    · exact absurd (Json.isDigit_of_mem_toDigits (inside.subset List.mem_cons_self)) (by decide)
  | user given => exact (values.user _ given).free (infix_of_append (by decide) inside)

theorem isSetting_iff : IsSetting host port user w ↔ w ∈ settings host port user := by
  constructor
  · intro h
    cases h with
    | host => simp [settings]
    | port => simp [settings]
    | user given => simp [settings, given]
  · intro h
    obtain rfl | rfl | h := by simpa only [settings, List.mem_cons] using h
    · exact .host
    · exact .port
    · obtain ⟨name, given, rfl⟩ := by simpa using h
      exact .user given

theorem names_of_perm (order : ws.Perm (settings host port user)) : Names ws host port user where
  named _ hw := order.mem_iff.2 (isSetting_iff.1 hw)
  rest _ hw := .inl (isSetting_iff.2 (order.mem_iff.1 hw))

theorem IsSetting.isWord (values : AreValues host port user) (h : IsSetting host port user w) : IsWord w := by
  cases h with
  | host => exact IsWord.append (by decide) values.host.isWord.solid
  | port =>
    exact IsWord.append (by decide) fun c hc => isBlank_of_isDigit (Json.isDigit_of_mem_toDigits hc)
  | user given => exact IsWord.append (by decide) (values.user _ given).isWord.solid

/-- What the words read so far have set. A user name that is not to be set is not set. -/
structure Gathered (host : String) (port : UInt16) (user : Option String) (seen : List (List Char)) (e : Endpoint) :
    Prop where
  host : hostWord host ∈ seen → e.host = some host
  port : portWord port ∈ seen → e.port = port
  user : (∀ name ∈ user, userWord name ∈ seen) → e.user = user

variable {seen : List (List Char)}

theorem hostWord_ne_portWord (host : String) (port : UInt16) : hostWord host ≠ portWord port :=
  fun same => absurd (congrArg List.head? same) (by decide : some 'b' ≠ some 'p')

theorem hostWord_ne_userWord (host user : String) : hostWord host ≠ userWord user :=
  fun same => absurd (congrArg List.head? same) (by decide : some 'b' ≠ some 'u')

theorem portWord_ne_userWord (port : UInt16) (user : String) : portWord port ≠ userWord user :=
  fun same => absurd (congrArg List.head? same) (by decide : some 'p' ≠ some 'u')

theorem Gathered.word (h : Gathered host port user seen e) (values : AreValues host port user)
    (allowed : IsSetting host port user w ∨ IsNote w) :
    ∃ e', e.word? w = some e' ∧ Gathered host port user (seen ++ [w]) e' := by
  -- Words with different keys are different, so the word sets one value and leaves what was seen for the others.
  have before {v : List Char} (hv : v ∈ seen ++ [w]) (other : v ≠ w) : v ∈ seen := by simpa [other] using hv
  obtain setting | note := allowed
  · cases setting with
    | host =>
      refine ⟨_, word?_hostWord e host, fun _ => ?_, fun hv => h.port ?_, fun hv => h.user ?_⟩
      · exact nonBlank?_of_isPlain values.host.isPlain
      · exact before hv (hostWord_ne_portWord host port).symm
      · exact fun name hn => before (hv name hn) (hostWord_ne_userWord host name).symm
    | port =>
      refine ⟨_, word?_portWord e values.port, fun hv => h.host ?_, fun _ => rfl, fun hv => h.user ?_⟩
      · exact before hv (hostWord_ne_portWord host port)
      · exact fun name hn => before (hv name hn) (portWord_ne_userWord port name).symm
    | @user name given =>
      subst given
      refine ⟨_, word?_userWord e name, fun hv => h.host ?_, fun hv => h.port ?_, fun _ => ?_⟩
      · exact before hv (hostWord_ne_userWord host name)
      · exact before hv (portWord_ne_userWord port name)
      · exact nonBlank?_of_isPlain (values.user name rfl).isPlain
  · refine ⟨e, note.word?_eq e, fun hv => h.host ?_, fun hv => h.port ?_, fun hv => h.user fun name hn => ?_⟩
    · exact before hv fun same => note.host (same ▸ List.prefix_append _ _)
    · exact before hv fun same => note.port (same ▸ List.prefix_append _ _)
    · exact before (hv name hn) fun same => note.user (same ▸ List.prefix_append _ _)

theorem Gathered.words (h : Gathered host port user seen e) (values : AreValues host port user)
    (allowed : ∀ w ∈ ws, IsSetting host port user w ∨ IsNote w) :
    ∃ e', ws.foldlM Endpoint.word? e = some e' ∧ Gathered host port user (seen ++ ws) e' := by
  induction ws generalizing seen e with
  | nil => exact ⟨e, rfl, by rwa [List.append_nil]⟩
  | cons w ws ih =>
    obtain ⟨head, tail⟩ := List.forall_mem_cons.1 allowed
    obtain ⟨e', step, gathered⟩ := h.word values head
    obtain ⟨last, run, gathered⟩ := ih gathered tail
    refine ⟨last, ?_, ?_⟩
    · rw [List.foldlM_cons, step, Option.bind_eq_bind, Option.bind_some, run]
    · rwa [List.append_assoc, List.singleton_append] at gathered

theorem gathered_nil : Gathered host port user [] {} where
  host := nofun
  port := nofun
  user hv := by
    cases user with
    | none => rfl
    | some name => cases hv name rfl

theorem endpoint?_of_names {head : List Char} (values : AreValues host port user) (h : Names ws host port user)
    (cut : words head = ws) (pass : Option String) :
    endpoint? head pass = some (.mqtt host port user pass) := by
  obtain ⟨e, run, gathered⟩ := gathered_nil.words values h.rest
  have isHost : e.host = some host := gathered.host (h.named _ .host)
  have isPort : e.port = port := gathered.port (h.named _ .port)
  have isUser : e.user = user := gathered.user fun name hn => h.named _ (.user hn)
  rw [endpoint?, cut, run, Option.bind_eq_bind, Option.bind_some, isHost, isPort, isUser]
  rfl

/-! ### The line of an endpoint -/

/-- No key of a password begins in front of it. -/
theorem Names.free (h : Names ws host port user) (values : AreValues host port user) {head : List Char}
    (spread : IsSpread ws head) : ¬ passKey <:+: head := by
  intro inside
  obtain ⟨w, hw, inside⟩ := exists_infix_of_isSpread (by decide) spread inside
  obtain setting | note := h.rest w hw
  · exact setting.free values inside
  · exact note.free inside

theorem mqtt?_of_pass {head : List Char} {pass : String} (free : ¬ passKey <:+: head) (plain : IsPlain pass) :
    mqtt? (head ++ passKey ++ pass.toList) = endpoint? head (some pass) := by
  rw [mqtt?_of_find? (find?_append (by decide) free pass.toList), nonBlank?_of_isPlain plain]

/-- Blanks at the end of a line are cut off before it is read. -/
theorem exists_trim_bare {head : String} (spread : IsSpread ws head.toList) (given : ws ≠ []) :
    ∃ front, trim (mqttLine head none).toList = "mqtt ".toList ++ front ∧ words front = ws ∧
      front <+: head.toList := by
  obtain ⟨front, gap, split, blank, c, shown, solid⟩ := spread.exists_front given
  refine ⟨front, ?_, ?_, ?_⟩
  · have trimmed : IsTrimmed ("mqtt ".toList ++ front) := by
      refine ⟨by simp [isBlank], fun d hd => ?_⟩
      rw [List.getLast?_append, shown] at hd
      cases hd
      exact solid
    rw [toList_mqttLine, passEnd, List.append_nil, split, ← List.append_assoc]
    exact trim_append_blanks trimmed blank
  · rw [← words_append_blanks front blank, ← split]
    exact words_of_isSpread spread
  · exact ⟨gap, split.symm⟩

/-- The values of an endpoint are read back from a line whose words name them. -/
theorem parse_mqttLine {head : String} {pass : Option String} (values : AreValues host port user)
    (given : ∀ p ∈ pass, IsPlain p) (h : Names ws host port user) (spread : IsSpread ws head.toList) :
    parse (mqttLine head pass) = .ok (some (.mqtt host port user pass)) := by
  have free := h.free values spread
  cases pass with
  | some pass =>
    have plain := given pass rfl
    have first : ∀ c ∈ ("mqtt ".toList ++ head.toList).head?, isBlank c = false := by simp [isBlank]
    have line : trim (mqttLine head (some pass)).toList =
        "mqtt ".toList ++ (head.toList ++ passKey ++ pass.toList) := by
      rw [toList_mqttLine, passEnd, ← List.append_assoc head.toList]
      exact trim_line first plain.trimmed
    have cut := words_of_isSpread spread
    rw [parse_mqtt line, mqtt?_of_pass free plain, endpoint?_of_names values h cut]
    rfl
  | none =>
    obtain ⟨front, line, cut, within⟩ := exists_trim_bare spread (List.ne_nil_of_mem (h.named _ .host))
    have absent : find? passKey front = none := find?_eq_none_iff.2 fun inside => free (inside.trans within.isInfix)
    rw [parse_mqtt line, mqtt?_of_no_pass absent, endpoint?_of_names values h cut]
    rfl

theorem parse_settings {pass : Option String} (values : AreValues host port user) (given : ∀ p ∈ pass, IsPlain p)
    (order : ws.Perm (settings host port user)) :
    parse (mqttLine (String.ofList (spaced ws)) pass) = .ok (some (.mqtt host port user pass)) := by
  have areWords : ∀ w ∈ ws, IsWord w := fun w hw => (isSetting_iff.2 (order.mem_iff.1 hw)).isWord values
  refine parse_mqttLine values given (names_of_perm order) ?_
  rw [String.toList_ofList]
  exact isSpread_spaced areWords

/-! ## Both kinds of lines -/

/-- No slice is taken out of bounds, and configuration lines are read as the values that they are put together from. The
network name may hold anything but the key of the password, and a password may hold anything between its ends. The words
of an endpoint stand in any order, and there may be other words among them and any blanks between them. -/
theorem configuration_lines_read_back :
    (∀ params : List Char,
      wifiByOffsets? params = some (wifi? params) ∧ mqttByOffsets? params = some (mqtt? params)) ∧
    (∀ ssid pass : String, IsPlain ssid → ¬ passKey <:+: ssid.toList → IsTrimmed pass.toList →
      parse (wifiLine ssid pass) = .ok (some (.wifi ssid pass))) ∧
    ∀ (host : String) (port : UInt16) (user pass : Option String),
      AreValues host port user → (∀ p ∈ pass, IsPlain p) →
      (∀ ws, ws.Perm (settings host port user) →
        parse (mqttLine (String.ofList (spaced ws)) pass) = .ok (some (.mqtt host port user pass))) ∧
      ∀ ws (head : String), Names ws host port user → IsSpread ws head.toList →
        parse (mqttLine head pass) = .ok (some (.mqtt host port user pass)) := by
  refine ⟨fun params => ⟨wifiByOffsets?_eq params, mqttByOffsets?_eq params⟩, ?_, ?_⟩
  · exact fun _ _ name free trimmed => parse_wifiLine name free trimmed
  · intro host port user pass values given
    exact ⟨fun _ order => parse_settings values given order, fun _ _ names => parse_mqttLine values given names⟩

/-- Both passwords hold keys, and the words of the endpoint stand in reverse with another one among them. -/
theorem keyed_passwords_read_back :
    wifiByOffsets? "ssid=Büro pass=ü".toList = some (wifi? "ssid=Büro pass=ü".toList) ∧
      parse (wifiLine "Büro Süd ssid=" "pass=a b") = .ok (some (.wifi "Büro Süd ssid=" "pass=a b")) ∧
      parse (mqttLine "user=jürgen\u00a0now port=8883\tbroker=h " (some "pass= user=x")) =
        .ok (some (.mqtt "h" 8883 (some "jürgen") (some "pass= user=x"))) := by
  obtain ⟨fits, wifi, mqtt⟩ := configuration_lines_read_back
  refine ⟨(fits _).1, wifi _ _ ⟨by decide, by decide⟩ (by decide) (by decide), ?_⟩
  let ws := [userWord "jürgen", "now".toList, portWord 8883, hostWord "h"]
  have names : Names ws "h" 8883 (some "jürgen") := by
    refine ⟨fun w hw => ?_, ?_⟩
    · cases hw with
      | host => simp [ws]
      | port => simp [ws]
      | user given =>
        cases given
        simp [ws]
    · simp only [ws, List.forall_mem_cons]
      exact ⟨.inl (.user rfl), .inr ⟨by decide, by decide, by decide, by decide⟩, .inl .port, .inl .host, nofun⟩
  refine (mqtt _ _ _ _ ⟨⟨by decide, by decide⟩, by decide, ?_⟩ ?_).2 ws _ names (words_eq_iff.1 (by decide))
  · rintro _ ⟨⟩
    exact ⟨by decide, by decide⟩
  · rintro _ ⟨⟩
    exact ⟨by decide, by decide⟩

end Telemetry.Relay.Console
