import Telemetry.Text.Utf8

/-!
# Text for a terminal

A text may hold control sequences, which a terminal acts on instead of showing them. `bold` and `heading`
write such sequences around a text. `shown` is what is left for a reader without a terminal.
-/

namespace Telemetry.Text.Terminal

/-! ## Styles -/

def bold (s : String) : String := "\x1b[1m" ++ s ++ "\x1b[0m"

/-- Bold and underlined. -/
def heading (s : String) : String := "\x1b[1m\x1b[4m" ++ s ++ "\x1b[0m"

/-! ## Control sequences -/

/-- Where in a control sequence a terminal is. -/
inductive State
  /-- In none. -/
  | outside
  /-- After the escape character. -/
  | escape
  /-- After the escape character and a mark that wants a letter. -/
  | marked
  /-- Among the parameters of a command that a letter ends. -/
  | parameters
  /-- In the text of a command to the terminal's system. -/
  | command
  /-- At the start of a command to the device. -/
  | device
  /-- Among the parameters of a command to the device. -/
  | deviceParameters
  /-- Among the marks after these parameters. -/
  | deviceMarks
  /-- In data that nobody reads. -/
  | data
  deriving DecidableEq, Repr

/-- Does a character end data? Among its bytes is then the one that terminates strings. -/
def endsData (c : Char) : Bool := (utf8 (String.singleton c)).contains 0x9C

/-- Is this one of the characters from `first` up to the last one that ASCII prints? -/
def isFrom (first c : Char) : Bool := first ≤ c && c < '\x7f'

/-- The state after a character. Two characters cancel a sequence, and the escape character begins one
anywhere. A command to the device has parameters, then marks, then a letter, and data after it; if one of
them is out of place, all that follows counts as data. -/
def State.next (s : State) (c : Char) : State :=
  if c = '\x1b' then .escape
  else if c = '\x18' ∨ c = '\x1a' then .outside
  else
    match s with
    | .outside => .outside
    | .escape =>
      if c = '[' then .parameters
      else if c = ']' then .command
      else if c = 'P' then .device
      else if c = 'X' ∨ c = '^' ∨ c = '_' then .data
      else if isFrom '0' c then .outside
      else if isFrom ' ' c then .marked
      else .escape
    | .marked => if isFrom '0' c then .outside else .marked
    | .parameters => if isFrom '@' c then .outside else .parameters
    | .command => if c = '\x07' then .outside else .command
    | .device =>
      if isFrom '@' c then .data
      else if isFrom '0' c then .deviceParameters
      else if isFrom ' ' c then .deviceMarks
      else .device
    | .deviceParameters =>
      if isFrom '<' c then .data
      else if isFrom '0' c then .deviceParameters
      else if isFrom ' ' c then .deviceMarks
      else .deviceParameters
    | .deviceMarks => if isFrom '0' c then .data else .deviceMarks
    | .data => if endsData c then .outside else .data

/-- Control characters that leave blank space. -/
def isSpacing (c : Char) : Bool := c = '\t' || c = '\n' || c = '\x0c' || c = '\r'

/-- Is a character shown in this state? Spacing is also shown within a sequence. -/
def State.shows (s : State) (c : Char) : Bool :=
  match s with
  | .outside => isSpacing c || ' ' ≤ c && c ≠ '\x7f'
  | .escape | .marked | .parameters => isSpacing c
  | .command | .device | .deviceParameters | .deviceMarks | .data => false

/-- What is shown of a text. Once a character is shown, so are those that follow it, up to one that no
state shows; only there the sequence that was begun goes on, unless a character beyond ASCII has come
between. -/
def shownFrom (showing : Bool) (s : State) : List Char → List Char
  | [] => []
  | c :: cs =>
    if showing && State.outside.shows c then
      c :: shownFrom true (if c.toNat < 0x80 then s else .outside) cs
    else if s.shows c then c :: shownFrom true (s.next c) cs
    else shownFrom false (s.next c) cs

def shown (s : String) : String := String.ofList (shownFrom true .outside s.toList)

end Telemetry.Text.Terminal
