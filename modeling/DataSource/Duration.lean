import DataSource.Binary64
import DataSource.Numeral
import DataSource.Text.Quoted

/-!
Durations of whole microseconds, and their written form: an optional sign, and a sequence of
components such as `1m30s`, each a decimal number and its unit. A lone `0` needs no unit.

Reading adds the components up in binary64, each number rounded to that format, multiplied by the
microseconds of its unit and added to the sum; the sum is then rounded to whole microseconds, a
half to the even neighbour. A sum above the greatest duration is refused. Writing is exact: it
spells the whole number of microseconds without any rounding. The two are `parse_duration` and
`format_duration`.
-/
namespace DataSource

/-- A span of time in whole microseconds, of either sign. -/
structure Duration where
  /-- The number of microseconds. -/
  micros : Int
  deriving DecidableEq

namespace Duration

instance : Inhabited Duration := ⟨⟨0⟩⟩

/-- The units in which components are counted. -/
inductive TimeUnit where
  | nanosecond
  | microsecond
  | millisecond
  | second
  | minute
  | hour
  deriving DecidableEq

/-- The symbol with which a unit is written. -/
def TimeUnit.symbol : TimeUnit → Text
  | .nanosecond => ['n', 's']
  | .microsecond => ['\u00b5', 's']
  | .millisecond => ['m', 's']
  | .second => ['s']
  | .minute => ['m']
  | .hour => ['h']

/-- The length of a unit in nanoseconds. -/
def TimeUnit.nanos : TimeUnit → Nat
  | .nanosecond => 1
  | .microsecond => 1000
  | .millisecond => 1000000
  | .second => 1000000000
  | .minute => 60000000000
  | .hour => 3600000000000

/-- The length of a unit in microseconds, as the nearest binary64 number (`_DURATION_UNITS`). -/
def TimeUnit.micros (unit : TimeUnit) : Binary64 :=
  .ofQuotient unit.nanos 1000

/-- Reads a unit off a text. A microsecond may be written with `u`, with the micro sign or with the
Greek letter mu; `ms` is a millisecond and never a minute. -/
def readUnit : Text → Option (TimeUnit × Text)
  | 'n' :: 's' :: rest => some (.nanosecond, rest)
  | 'u' :: 's' :: rest => some (.microsecond, rest)
  | '\u00b5' :: 's' :: rest => some (.microsecond, rest)
  | '\u03bc' :: 's' :: rest => some (.microsecond, rest)
  | 'm' :: 's' :: rest => some (.millisecond, rest)
  | 's' :: rest => some (.second, rest)
  | 'm' :: rest => some (.minute, rest)
  | 'h' :: rest => some (.hour, rest)
  | _ => none

/-- A decimal number and its unit. -/
structure Component where
  /-- The digits before the point. -/
  whole : Text
  /-- The digits after the point, where there is one. -/
  fraction : Option Text
  /-- What the number counts. -/
  unit : TimeUnit
  deriving DecidableEq

namespace Component

/-- All digits of the number. -/
def digits (component : Component) : Text :=
  component.whole ++ component.fraction.getD []

/-- The power of ten that the number is a quotient by. -/
def denominator (component : Component) : Nat :=
  Nat.pow 10 (component.fraction.getD []).length

/-- The microseconds of a component: its number and the product each rounded to binary64. -/
def micros (component : Component) : Binary64 :=
  .ofQuotient (Numeral.value component.digits) component.denominator * component.unit.micros

/-- The written form of a component. -/
def render (component : Component) : Text :=
  component.whole ++ component.fraction.elim [] (fun digits => '.' :: digits) ++
    component.unit.symbol

end Component

/-- Reads the digits after a point, where there is one. -/
def readFraction : Text → Option Text × Text
  | '.' :: rest => (some (rest.takeWhile Char.isDigit), rest.dropWhile Char.isDigit)
  | text => (none, text)

/-- Reads one component off a text (`_DURATION_COMPONENT`). Its number has at least one digit. -/
def readComponent (text : Text) : Option (Component × Text) :=
  let whole := text.takeWhile Char.isDigit
  let (fraction, rest) := readFraction (text.dropWhile Char.isDigit)
  if whole ++ fraction.getD [] = [] then none
  else
    match readUnit rest with
    | some (unit, rest) => some (⟨whole, fraction, unit⟩, rest)
    | none => none

theorem length_lt_of_readUnit {text rest : Text} {unit : TimeUnit}
    (read : readUnit text = some (unit, rest)) : rest.length < text.length := by
  unfold readUnit at read
  split at read
  case h_9 => cases read
  all_goals
    cases read
    simp only [List.length_cons]
    omega

theorem length_readFraction_le (text : Text) : (readFraction text).2.length ≤ text.length := by
  unfold readFraction
  split
  · exact Nat.le_succ_of_le (List.dropWhile_sublist _).length_le
  · exact Nat.le_refl _

theorem length_lt_of_readComponent {text rest : Text} {component : Component}
    (read : readComponent text = some (component, rest)) : rest.length < text.length := by
  have fraction := length_readFraction_le (text.dropWhile Char.isDigit)
  have whole := (List.dropWhile_sublist Char.isDigit (l := text)).length_le
  cases found : readUnit (readFraction (text.dropWhile Char.isDigit)).2 with
  | none => simp [readComponent, found] at read
  | some parts =>
    have unit := length_lt_of_readUnit found
    simp only [readComponent, found] at read
    split at read
    · cases read
    · cases read
      omega

/-- The components of a text: none unless it is a sequence of them. -/
def components? (text : Text) : Option (List Component) :=
  if text = [] then some []
  else
    match _ : readComponent text with
    | some (component, rest) =>
      match components? rest with
      | some more => some (component :: more)
      | none => none
    | none => none
termination_by text.length
decreasing_by exact length_lt_of_readComponent ‹_›

/-- The sum of components in binary64, from the first to the last. -/
def total (components : List Component) : Binary64 :=
  components.foldl (fun sum component => sum + component.micros) 0

/-- The greatest sum of components, in microseconds: those of the nanoseconds that a signed 64-bit
number can count, as the nearest binary64 number (`_MAX_DURATION_MICROS`). -/
def greatest : Binary64 :=
  .ofQuotient (Nat.pow 2 63 - 1) 1000

/-- A text that is no duration, or one that is too long. -/
structure Invalid where
  /-- The text. -/
  text : Text
  deriving DecidableEq

/-- What is wrong with the text. -/
def Invalid.message (invalid : Invalid) : Text :=
  "invalid duration ".toList ++ Text.quoted invalid.text

/-- The magnitude that an unsigned text denotes, in microseconds. -/
def magnitude? (text : Text) : Option Nat :=
  if text = ['0'] then some 0
  else if text = [] then none
  else
    match components? text with
    | some components =>
      if greatest < total components then none else some (total components).round
    | none => none

/-- Reads a duration (`parse_duration`). -/
def parse (text : Text) : Except Invalid Duration :=
  let (negative, unsigned) := Numeral.sign text
  match magnitude? unsigned with
  | some micros => .ok ⟨if negative then -(micros : Int) else micros⟩
  | none => .error ⟨text⟩

/-- The component that counts `micros` microseconds in a unit of `10 ^ places` of them, with as
few decimals as that takes (`_format_fraction`). -/
def decimal (micros places : Nat) (unit : TimeUnit) : Component :=
  let size := Nat.pow 10 places
  let digits := Numeral.ofNat (micros % size)
  let decimals := List.replicate (places - digits.length) '0' ++ digits
  let kept := Text.trimEnd (· = '0') decimals
  ⟨Numeral.ofNat (micros / size), if kept = [] then none else some kept, unit⟩

/-- The component that counts whole units. -/
def count (n : Nat) (unit : TimeUnit) : Component :=
  ⟨Numeral.ofNat n, none, unit⟩

/-- The components in which a number of microseconds is written: one component below a second, and
from there on hours, minutes and seconds, beginning with the first that is not zero. -/
def spell (micros : Nat) : List Component :=
  if micros = 0 then [count 0 .second]
  else if micros < 1000 then [count micros .microsecond]
  else if micros < 1000000 then [decimal micros 3 .millisecond]
  else
    let hours := micros / 3600000000
    let minutes := micros % 3600000000 / 60000000
    let seconds := decimal (micros % 60000000) 6 .second
    if hours ≠ 0 then [count hours .hour, count minutes .minute, seconds]
    else if minutes ≠ 0 then [count minutes .minute, seconds]
    else [seconds]

/-- Writes a duration (`format_duration`). -/
def format (duration : Duration) : Text :=
  (if duration.micros < 0 then ['-'] else []) ++
    (spell duration.micros.natAbs).flatMap Component.render

end Duration

end DataSource
